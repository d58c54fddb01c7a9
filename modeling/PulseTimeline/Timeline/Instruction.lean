import PulseTimeline.Phase

set_option autoImplicit false

/-! # Instructions and segments

An instruction lasts a number of samples; phase changes and the start of a measurement take no
time. A segment is what an element does between two restarts: one list of instructions, or two
lists side by side for the two quadratures. Durations are at most `maxDuration`. -/

namespace PulseTimeline

/-- The greatest duration, in samples. -/
def maxDuration : Nat := 1 <<< 64 - 1

/-- One thing that an element does. -/
inductive Instruction where
  | play (operation : String) (samples : List Float)
  | delay (duration : Nat)
  | measure (operation : Option String)
  | phaseOffset (phase : Radians)
  | resetPhase
  | rampToZero (duration : Nat)
  deriving DecidableEq

namespace Instruction

/-- How many samples an instruction lasts. -/
def duration : Instruction → Nat
  | play _ samples => samples.length
  | delay n => n
  | measure _ => 0
  | phaseOffset _ => 0
  | resetPhase => 0
  | rampToZero n => n

end Instruction

/-- The sum of two durations, if it is a duration. -/
def addDurations? (a b : Nat) : Option Nat :=
  if a + b ≤ maxDuration then some (a + b) else none

/-- How long instructions last one after the other, if that is a duration. -/
def totalDuration? (instructions : List Instruction) : Option Nat :=
  instructions.foldlM (fun total instruction => addDurations? total instruction.duration) 0

/-- Whether an element is driven by one signal or by two quadratures. -/
inductive ChannelKind where
  | single
  | iq
  deriving DecidableEq

/-- The instructions between two restarts. -/
inductive Segment where
  | single (instructions : List Instruction)
  | iq (i q : List Instruction)
  deriving DecidableEq

namespace Segment

/-- The segment without instructions. -/
def empty : ChannelKind → Segment
  | .single => .single []
  | .iq => .iq [] []

/-- The kind of element that a segment belongs to. -/
def kind : Segment → ChannelKind
  | single _ => .single
  | iq _ _ => .iq

/-- How long a segment lasts, if that is a duration. -/
def duration? : Segment → Option Nat
  | single instructions => totalDuration? instructions
  | iq i _ => totalDuration? i

/-- How long a segment lasts, no more than the greatest duration. -/
def duration (segment : Segment) : Nat := segment.duration?.getD maxDuration

/-- Whether both quadratures last equally long. -/
def isBalanced : Segment → Bool
  | single _ => true
  | iq i q => totalDuration? i == totalDuration? q

/-- Append an instruction, to both quadratures if there are two. -/
def push (instruction : Instruction) : Segment → Segment
  | single instructions => single (instructions ++ [instruction])
  | iq i q => iq (i ++ [instruction]) (q ++ [instruction])

/-- Append a played pulse with its samples for either quadrature. A segment with a single signal
    stays as it is. -/
def pushPlay (operation : String) (iSamples qSamples : List Float) : Segment → Segment
  | single instructions => single instructions
  | iq i q => iq (i ++ [.play operation iSamples]) (q ++ [.play operation qSamples])

end Segment

end PulseTimeline
