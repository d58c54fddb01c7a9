import PulseTimeline.Run.Evaluate
import PulseTimeline.Timeline.Store

set_option autoImplicit false

/-! # The state of a run

A run changes variables, timelines, random generators and result streams. Each step is a step on
one of these parts; the others stay as they are. -/

namespace PulseTimeline

/-- The state of a run. -/
structure RunState where
  environment : Environment
  timelines : Store
  random : Random.Pool
  /-- The values saved to each stream, in the order of the first save. -/
  streams : Table (List Value)
  deriving DecidableEq

/-- A step of a run. -/
abbrev Run := EStateM RunError RunState

namespace Run

/-- A step on the variables. -/
def onEnvironment {α : Type} (step : EStateM RunError Environment α) : Run α := fun state =>
  match step state.environment with
  | .ok a environment => .ok a { state with environment }
  | .error e environment => .error e { state with environment }

/-- A step on the timelines. -/
def onTimelines {α : Type} (step : EStateM TimelineError Store α) : Run α := fun state =>
  match step state.timelines with
  | .ok a timelines => .ok a { state with timelines }
  | .error e timelines => .error (.ofTimeline e) { state with timelines }

/-- The value of an expression in the current environment. -/
def value (expression : Expression) : Run Value := fun state =>
  match evaluate state.environment expression state.random with
  | .ok v random => .ok v { state with random }
  | .error e random => .error e { state with random }

/-- The value of an expression that has to be an integer. -/
def integer (expression : Expression) : Run Int64 := do
  let v ← value expression
  liftOutcome (expectInteger expression v)

/-- The truth of a condition. -/
def condition (expression : Expression) : Run Bool := do
  return (← value expression).toBool

/-- The number of samples in a number of clock cycles, if it is not negative and has an exact
    representation. -/
def samplesOfCycles (clock cycles : Int64) : Except RunError Nat :=
  let samples := cycles.toInt * clock.toInt
  if cycles < 0 then .error (.negativeDuration cycles)
  else if 0 ≤ samples ∧ samples ≤ Int64.maxValue.toInt then .ok samples.toNat
  else .error (.durationOverflow cycles)

/-- The samples in the clock cycles that an expression gives. -/
def duration (setup : Setup) (expression : Expression) : Run Nat := do
  let cycles ← integer expression
  liftOutcome (samplesOfCycles setup.settings.clockCycleSamples cycles)

/-- Append a value to a stream. -/
def save (stream : String) (v : Value) : Run Unit :=
  modify fun state =>
    { state with
      streams := state.streams.insert stream ((state.streams.find? stream).getD [] ++ [v]) }

/-- Repeat a step while a condition holds, at most as often as the last argument says; `limit` is
    what the error names. -/
def repeatWhile (limit : Nat) (condition : Run Bool) (body : Run Unit) : Nat → Run Unit
  | 0 => do
    if ← condition then throw (.iterationLimitExceeded limit)
  | remaining + 1 => do
    if ← condition then
      body
      repeatWhile limit condition body remaining

end Run

end PulseTimeline
