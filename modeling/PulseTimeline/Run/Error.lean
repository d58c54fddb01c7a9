import PulseTimeline.Expression.Calculate
import PulseTimeline.Timeline.Basic
import PulseTimeline.Value.Literal
import PulseTimeline.Waveform.Resolve

set_option autoImplicit false

/-! # What can go wrong in a run -/

namespace PulseTimeline

/-- Why a run stops. -/
inductive RunError where
  | unboundVariable (name : String)
  | notAnArray (name : String)
  | notAScalar (name : String)
  | indexOutOfBounds (array : String) (index : Int64) (length : Nat)
  | unknownChannel (channel : String)
  | unimplementedFunction (library name : String)
  | unsupportedPlayTarget (channel : String)
  | wrongArgumentCount (function : String) (expected found : Nat)
  | randomBoundTooSmall (max : Int64)
  | expectedInteger (expression : String) (found : ScalarType)
  | negativeDuration (cycles : Int64)
  | durationOverflow (cycles : Int64)
  | pulseTooLong (samples limit : Nat)
  | arrayTooLarge (name : String) (size limit : Nat)
  | iterationLimitExceeded (limit : Nat)
  | operator (error : OperatorError)
  | waveform (error : WaveformError)
  | timeline (error : TimelineError)
  | literal (error : LiteralError)
  deriving DecidableEq

namespace RunError

/-- An error of a timeline as an error of the run. -/
def ofTimeline : TimelineError → RunError
  | .unknownChannel channel => .unknownChannel channel
  | .notIq channel => .unsupportedPlayTarget channel
  | other => .timeline other

/-- The wording of the error. -/
def message : RunError → String
  | unboundVariable name => "variable `" ++ name ++ "` is not defined"
  | notAnArray name => "`" ++ name ++ "` is not an array"
  | notAScalar name => "array `" ++ name ++ "` cannot be used as a scalar"
  | indexOutOfBounds array index length =>
    "index " ++ Decimal.integerText index.toInt ++ " is out of bounds for array `" ++ array ++
      "` of length " ++ Decimal.natText length
  | unknownChannel channel => "element `" ++ channel ++ "` is not configured"
  | unimplementedFunction library name =>
    "function `" ++ library ++ "." ++ name ++ "` is not implemented"
  | unsupportedPlayTarget channel =>
    "cannot play to `" ++ channel ++ "`: only IQ elements can be played to"
  | wrongArgumentCount function expected found =>
    "`" ++ function ++ "` takes " ++ Decimal.natText expected ++ " arguments but " ++
      Decimal.natText found ++ " were given"
  | randomBoundTooSmall max =>
    "random number maximum must be at least 1, got " ++ Decimal.integerText max.toInt
  | expectedInteger expression found =>
    "`" ++ expression ++ "` must be an integer, found " ++ found.text
  | negativeDuration cycles => "duration " ++ Decimal.integerText cycles.toInt ++ " is negative"
  | durationOverflow cycles =>
    "duration of " ++ Decimal.integerText cycles.toInt ++
      " clock cycles is too long to represent in samples"
  | pulseTooLong samples limit =>
    "pulse of " ++ Decimal.natText samples ++ " samples is longer than the limit of " ++
      Decimal.natText limit
  | arrayTooLarge name size limit =>
    "array `" ++ name ++ "` has size " ++ Decimal.natText size ++ ", more than the limit of " ++
      Decimal.natText limit
  | iterationLimitExceeded limit =>
    "loop exceeded the limit of " ++ Decimal.natText limit ++ " iterations"
  | operator error => error.message
  | waveform error => error.message
  | timeline error => error.message
  | literal error => error.message

end RunError

end PulseTimeline
