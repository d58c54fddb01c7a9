import PulseTimeline.Decimal.Integer
import PulseTimeline.Timeline.Instruction

set_option autoImplicit false

/-! # Timelines

What one element does over time: closed segments, the current one, how far the current one has
come, and the phase that has accumulated. Every operation either succeeds or reports an error and
leaves the timeline as it was. -/

namespace PulseTimeline

/-- What is wrong with a recorded timeline. -/
inductive TimelineDefect where
  | noSegments
  | kindMismatch
  | unbalanced
  deriving DecidableEq

/-- The wording of a defect. -/
def TimelineDefect.message : TimelineDefect → String
  | noSegments => "it has no segments"
  | kindMismatch => "a segment does not match the element kind"
  | unbalanced => "a segment has quadratures of different durations"

/-- Why something cannot happen on a timeline. -/
inductive TimelineError where
  | unknownChannel (channel : String)
  | notIq (channel : String)
  | quadratureLengthMismatch (channel : String) (i q : Nat)
  | durationOverflow (channel : String)
  | invalid (channel : String) (defect : TimelineDefect)
  deriving DecidableEq

/-- The wording of the error. -/
def TimelineError.message : TimelineError → String
  | unknownChannel channel => "element `" ++ channel ++ "` is not configured"
  | notIq channel => "element `" ++ channel ++ "` is not an IQ element"
  | quadratureLengthMismatch channel i q =>
    "quadratures played on `" ++ channel ++ "` differ in length: I has " ++ Decimal.natText i ++
      " samples, Q has " ++ Decimal.natText q
  | durationOverflow channel =>
    "the timeline of `" ++ channel ++ "` would last longer than " ++ Decimal.natText maxDuration ++
      " samples"
  | invalid channel defect => "invalid timeline for `" ++ channel ++ "`: " ++ defect.message

/-- What one element does. -/
structure Timeline where
  channel : String
  kind : ChannelKind
  closed : List Segment
  current : Segment
  /-- How long the current segment lasts so far. -/
  cursor : Nat
  phase : Radians
  deriving DecidableEq

namespace Timeline

/-- The timeline of an element that has done nothing yet. -/
def new (channel : String) (kind : ChannelKind) : Timeline where
  channel
  kind
  closed := []
  current := .empty kind
  cursor := 0
  phase := ⟨0.0⟩

/-- All segments, the current one last. -/
def segments (timeline : Timeline) : List Segment := timeline.closed ++ [timeline.current]

/-- The segment at a position. -/
def segment? (timeline : Timeline) (index : Nat) : Option Segment := timeline.segments[index]?

/-- How many segments there are. -/
def segmentCount (timeline : Timeline) : Nat := timeline.closed.length + 1

/-! ## Operations -/

/-- A change to a timeline. -/
abbrev Edit := EStateM TimelineError Timeline Unit

/-- Move on in time. -/
def advance (samples : Nat) : Edit := fun timeline =>
  match addDurations? timeline.cursor samples with
  | some cursor => .ok () { timeline with cursor }
  | none => .error (.durationOverflow timeline.channel) timeline

/-- Append an instruction and move on by its duration. -/
def push (instruction : Instruction) : Edit := do
  advance instruction.duration
  modify fun timeline => { timeline with current := timeline.current.push instruction }

/-- Wait. A delay of no samples leaves no trace. -/
def delay (duration : Nat) : Edit :=
  if 0 < duration then push (.delay duration) else pure ()

/-- Wait until the current segment has come to the given time. -/
def padTo (time : Nat) : Edit := do delay (time - (← get).cursor)

/-- Play samples on both quadratures, which have to be equally long. -/
def playIq (operation : String) (i q : List Float) : Edit := do
  let timeline ← get
  if i.length ≠ q.length then
    throw (.quadratureLengthMismatch timeline.channel i.length q.length)
  else if timeline.kind ≠ .iq then throw (.notIq timeline.channel)
  else
    advance i.length
    modify fun timeline => { timeline with current := timeline.current.pushPlay operation i q }

/-- Start a measurement. -/
def measure (operation : Option String) : Edit := push (.measure operation)

/-- Turn the frame by an angle. -/
def phaseOffset (phase : Radians) : Edit := do
  push (.phaseOffset phase)
  modify fun timeline => { timeline with phase := timeline.phase + phase }

/-- Turn the frame back by all that has accumulated, and mark the reset. -/
def resetPhase : Edit := do
  push (.phaseOffset (-(← get).phase))
  push .resetPhase
  modify fun timeline => { timeline with phase := ⟨0.0⟩ }

/-- Bring the output back to zero. -/
def rampToZero (duration : Nat) : Edit := push (.rampToZero duration)

/-- Close the current segment and begin the next one at time zero. -/
def restart : Edit :=
  modify fun timeline =>
    { timeline with
      closed := timeline.closed ++ [timeline.current]
      current := .empty timeline.kind
      cursor := 0 }

end Timeline

/-! ## Records -/

/-- A timeline as it is handed over: nothing that follows from the segments. -/
structure TimelineRecord where
  channel : String
  kind : ChannelKind
  segments : List Segment
  phase : Radians
  deriving DecidableEq

/-- The record of a timeline. -/
def Timeline.toRecord (timeline : Timeline) : TimelineRecord where
  channel := timeline.channel
  kind := timeline.kind
  segments := timeline.segments
  phase := timeline.phase

namespace TimelineRecord

/-- The duration of a segment that fits the record: it has the kind of the element, its quadratures
    last equally long, and no longer than possible. -/
def checkSegment (record : TimelineRecord) (segment : Segment) : Except TimelineError Nat :=
  if segment.kind ≠ record.kind then .error (.invalid record.channel .kindMismatch)
  else if !segment.isBalanced then .error (.invalid record.channel .unbalanced)
  else match segment.duration? with
    | some duration => .ok duration
    | none => .error (.durationOverflow record.channel)

/-- The timeline of a record all of whose segments fit; the last one goes on. -/
def toTimeline (record : TimelineRecord) : Except TimelineError Timeline :=
  match record.segments.getLast? with
  | none => .error (.invalid record.channel .noSegments)
  | some current => do
    let closed := record.segments.dropLast
    closed.forM fun segment => do
      let _ ← record.checkSegment segment
    let cursor ← record.checkSegment current
    return {
      channel := record.channel
      kind := record.kind
      closed
      current
      cursor
      phase := record.phase }

end TimelineRecord

end PulseTimeline
