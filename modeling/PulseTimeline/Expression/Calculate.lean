import PulseTimeline.Decimal.Binary64
import PulseTimeline.Expression.Operator

set_option autoImplicit false

/-! # Applying operators

Arithmetic and comparison promote truth values to integers, and everything to doubles as soon as
one operand is a double. Integers wrap around at sixty-four bits. Bitwise operators know no
doubles, shifts only integers. -/

namespace PulseTimeline

/-- Why an operator has no result. -/
inductive OperatorError where
  | divisionByZero (operator : BinaryOperator)
  | invalidOperands (operator : BinaryOperator) (left right : ScalarType)
  | invalidOperand (operator : UnaryOperator) (operand : ScalarType)
  | shiftOutOfRange (amount : Int64)
  deriving DecidableEq

/-- The wording of the error. -/
def OperatorError.message : OperatorError → String
  | divisionByZero operator => "division by zero in `" ++ operator.names.symbol ++ "`"
  | invalidOperands operator left right =>
    "operator `" ++ operator.names.symbol ++ "` cannot be applied to " ++ left.text ++ " and " ++
      right.text
  | invalidOperand operator operand =>
    "operator `" ++ operator.names.symbol ++ "` cannot be applied to " ++ operand.text
  | shiftOutOfRange amount =>
    "shift amount " ++ Decimal.integerText amount.toInt ++ " is out of range"

/-- The remainder of a division of doubles, with the sign of the dividend. -/
def floatRemainder (x y : Float) : Float :=
  (Binary64.remainder (Binary64.ofFloat x) (Binary64.ofFloat y)).toFloat

/-- Two operands brought to one type. -/
inductive Promoted where
  | int (left right : Int64)
  | real (left right : Float)

/-- Two operands as doubles if one of them is a double, and as integers otherwise. -/
def Promoted.ofValues : Value → Value → Promoted
  | .real l, right => .real l right.toReal
  | left, .real r => .real left.toReal r
  | left, right => .int left.toInt right.toInt

namespace BinaryOperator

/-- The results of an arithmetic operator on integers and on doubles. A zero divisor is checked
    beforehand. -/
def arithmetic (operator : BinaryOperator) (onInt : Int64 → Int64 → Int64)
    (onReal : Float → Float → Float) (divides : Bool) (left right : Value) :
    Except OperatorError Value :=
  match Promoted.ofValues left right with
  | .int l r =>
    if divides && r == 0 then .error (.divisionByZero operator) else .ok (.int (onInt l r))
  | .real l r =>
    if divides && r == 0.0 then .error (.divisionByZero operator) else .ok (.real (onReal l r))

/-- The truth of a comparison of integers or of doubles. -/
def comparison (onInt : Int64 → Int64 → Bool) (onReal : Float → Float → Bool)
    (left right : Value) : Value :=
  match Promoted.ofValues left right with
  | .int l r => .bool (onInt l r)
  | .real l r => .bool (onReal l r)

/-- A bitwise operator: on two truth values a truth value, with an integer an integer. -/
def bitwise (operator : BinaryOperator) (onBool : Bool → Bool → Bool)
    (onInt : Int64 → Int64 → Int64) : Value → Value → Except OperatorError Value
  | .real _, right => .error (.invalidOperands operator .real right.type)
  | left, .real _ => .error (.invalidOperands operator left.type .real)
  | .bool l, .bool r => .ok (.bool (onBool l r))
  | left, right => .ok (.int (onInt left.toInt right.toInt))

/-- A shift of one integer by another. -/
def shift (operator : BinaryOperator) (onInt : Int64 → Int64 → Int64) :
    Value → Value → Except OperatorError Value
  | .int l, .int amount =>
    if 0 ≤ amount && amount < 64 then .ok (.int (onInt l amount))
    else .error (.shiftOutOfRange amount)
  | left, right => .error (.invalidOperands operator left.type right.type)

/-- The result of an operator on two values. -/
def calculate (operator : BinaryOperator) (left right : Value) : Except OperatorError Value :=
  match operator with
  | add => arithmetic add (· + ·) (· + ·) false left right
  | subtract => arithmetic subtract (· - ·) (· - ·) false left right
  | multiply => arithmetic multiply (· * ·) (· * ·) false left right
  | divide => arithmetic divide (· / ·) (· / ·) true left right
  | modulo => arithmetic modulo (· % ·) floatRemainder true left right
  | equal => .ok (comparison (· == ·) (· == ·) left right)
  | notEqual => .ok (comparison (· != ·) (· != ·) left right)
  | lessThan => .ok (comparison (· < ·) (· < ·) left right)
  | lessThanOrEqual => .ok (comparison (· ≤ ·) (· ≤ ·) left right)
  | greaterThan => .ok (comparison (· > ·) (· > ·) left right)
  | greaterThanOrEqual => .ok (comparison (· ≥ ·) (· ≥ ·) left right)
  | and => .ok (.bool (left.toBool && right.toBool))
  | or => .ok (.bool (left.toBool || right.toBool))
  | bitwiseAnd => bitwise bitwiseAnd (· && ·) (· &&& ·) left right
  | bitwiseOr => bitwise bitwiseOr (· || ·) (· ||| ·) left right
  | bitwiseXor => bitwise bitwiseXor (· != ·) (· ^^^ ·) left right
  | shiftLeft => shift shiftLeft (· <<< ·) left right
  | shiftRight => shift shiftRight (· >>> ·) left right

end BinaryOperator

namespace UnaryOperator

/-- The result of an operator on one value. -/
def calculate : UnaryOperator → Value → Except OperatorError Value
  | negate, .int n => .ok (.int (-n))
  | negate, .real x => .ok (.real (-x))
  | negate, .bool _ => .error (.invalidOperand negate .bool)
  | not, value => .ok (.bool (!value.toBool))

end UnaryOperator

end PulseTimeline
