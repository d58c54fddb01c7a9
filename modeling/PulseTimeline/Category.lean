import PulseTimeline.RawTree.Error
import PulseTimeline.Run.Error

set_option autoImplicit false

/-! # Categories of errors

Every error that keeps a program from being built or run belongs to one of four categories. -/

namespace PulseTimeline

/-- What kind of mistake an error points to. -/
inductive ErrorCategory where
  | malformedInput
  | unboundReference
  | unimplemented
  | invalidArgument
  deriving DecidableEq

/-- The name of a category. -/
def ErrorCategory.text : ErrorCategory → String
  | malformedInput => "malformed-input"
  | unboundReference => "unbound-reference"
  | unimplemented => "unimplemented"
  | invalidArgument => "invalid-argument"

/-- Whatever is wrong with a raw tree, the input is malformed. -/
def TreeError.category (_ : TreeError) : ErrorCategory := .malformedInput

/-- The category of a waveform error: some name is not configured, or an argument does not fit. -/
def WaveformError.category : WaveformError → ErrorCategory
  | unknownElement _ => .unboundReference
  | unknownOperation _ _ => .unboundReference
  | unknownPulse _ => .unboundReference
  | unknownWaveform _ => .unboundReference
  | missingWaveform _ => .invalidArgument
  | arbitraryLength _ _ _ => .invalidArgument
  | rampWithoutDuration => .invalidArgument

/-- The category of an error of a run. -/
def RunError.category : RunError → ErrorCategory
  | unboundVariable _ => .unboundReference
  | notAnArray _ => .unboundReference
  | notAScalar _ => .unboundReference
  | indexOutOfBounds _ _ _ => .unboundReference
  | unknownChannel _ => .unboundReference
  | waveform error => error.category
  | unimplementedFunction _ _ => .unimplemented
  | unsupportedPlayTarget _ => .unimplemented
  | literal _ => .malformedInput
  | wrongArgumentCount _ _ _ => .invalidArgument
  | randomBoundTooSmall _ => .invalidArgument
  | expectedInteger _ _ => .invalidArgument
  | negativeDuration _ => .invalidArgument
  | durationOverflow _ => .invalidArgument
  | pulseTooLong _ _ => .invalidArgument
  | arrayTooLarge _ _ _ => .invalidArgument
  | iterationLimitExceeded _ => .invalidArgument
  | operator _ => .invalidArgument
  | timeline _ => .invalidArgument

end PulseTimeline
