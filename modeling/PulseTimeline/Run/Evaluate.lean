import PulseTimeline.Environment
import PulseTimeline.Run.Builtin

set_option autoImplicit false

/-! # Evaluating expressions

An expression reads the environment and may draw random numbers; it changes nothing else. Operands
and arguments are evaluated from left to right, both operands always. -/

namespace PulseTimeline

/-- The outcome of a step that neither reads nor changes the state. -/
def liftOutcome {ε σ α : Type} (outcome : Except ε α) : EStateM ε σ α :=
  match outcome with
  | .ok a => pure a
  | .error e => throw e

/-- The integer that a value is, where an expression has to be an integer. -/
def expectInteger (expression : Expression) (value : Value) : Except RunError Int64 :=
  match value with
  | .int n => .ok n
  | other => .error (.expectedInteger expression.text other.type)

mutual

/-- The value of an expression. -/
def evaluate (environment : Environment) : Expression → EStateM RunError Random.Pool Value
  | .reference name => liftOutcome (environment.scalar name)
  | .literal text type => liftOutcome ((Value.ofLiteral text type).mapError .literal)
  | .binary left operator right => do
    let l ← evaluate environment left
    let r ← evaluate environment right
    liftOutcome ((operator.calculate l r).mapError .operator)
  | .unary operator operand => do
    let value ← evaluate environment operand
    liftOutcome ((operator.calculate value).mapError .operator)
  | .call library function arguments => do
    let values ← evaluateAll environment arguments
    callFunction library function values
  | .cell array index => do
    let value ← evaluate environment index
    let position ← liftOutcome (expectInteger index value)
    liftOutcome (environment.element array position)

/-- The values of a list of expressions. -/
def evaluateAll (environment : Environment) :
    List Expression → EStateM RunError Random.Pool (List Value)
  | [] => pure []
  | first :: rest => do
    let value ← evaluate environment first
    let values ← evaluateAll environment rest
    return value :: values

end

end PulseTimeline
