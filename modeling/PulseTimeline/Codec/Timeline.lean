import PulseTimeline.Codec.Value
import PulseTimeline.Timeline.Store

set_option autoImplicit false

/-! # Timelines as documents

Timelines are handed over as records; a record is turned back into a timeline only if its segments
fit together. -/

namespace PulseTimeline

/-- A kind of element as a document. -/
def ChannelKind.encode : ChannelKind → Json
  | single => .text "single"
  | iq => .text "iq"

/-- The kind of element that a document names. -/
def ChannelKind.decode (json : Json) : Decoded ChannelKind := do
  match ← Decode.choiceName json with
  | "single" => .ok .single
  | "iq" => .ok .iq
  | _ => .error .malformed

namespace Instruction

/-- An instruction as a document. -/
def encode : Instruction → Json
  | play operation samples =>
    .object [("type", .text "play"), ("operation", .text operation),
      ("samples", .array (samples.map .float))]
  | delay n => .object [("type", .text "delay"), ("duration", .int (Int.ofNat n))]
  | measure (some operation) =>
    .object [("type", .text "measure"), ("operation", .text operation)]
  | measure none => .object [("type", .text "measure")]
  | phaseOffset phase => .object [("type", .text "phase_offset"), ("phase", .float phase.value)]
  | resetPhase => .object [("type", .text "reset_phase")]
  | rampToZero n => .object [("type", .text "ramp_to_zero"), ("duration", .int (Int.ofNat n))]

/-- The names of the kinds of instructions, in order. -/
def alternatives : List String :=
  ["play", "delay", "measure", "phase_offset", "reset_phase", "ramp_to_zero"]

/-- The duration that a document has as its only field. -/
def decodeDuration (json : Json) : Decoded Nat := do
  (← Decode.fields ["duration"] json).required "duration" (Decode.natural 64)

/-- The instruction that a document holds, which may stand inside a segment. -/
def decode (nested : Bool) (json : Json) : Decoded Instruction := do
  match ← Decode.tagged "type" alternatives nested json with
  | ("play", content) =>
    let record ← Decode.fields ["operation", "samples"] content
    let operation ← record.required "operation" Decode.string
    return .play operation (← record.required "samples" (Decode.list Decode.float))
  | ("delay", content) => return .delay (← decodeDuration content)
  | ("measure", content) =>
    let record ← Decode.fields ["operation"] content
    return .measure (← record.withDefault "operation" none (Decode.option Decode.string))
  | ("phase_offset", content) =>
    let record ← Decode.fields ["phase"] content
    return .phaseOffset ⟨← record.required "phase" Decode.float⟩
  | ("reset_phase", content) =>
    let _ ← Decode.fields [] content
    return .resetPhase
  | ("ramp_to_zero", content) => return .rampToZero (← decodeDuration content)
  | _ => .error .malformed

end Instruction

namespace Segment

/-- A segment as a document. -/
def encode : Segment → Json
  | single instructions =>
    .object [("kind", .text "single"),
      ("instructions", .array (instructions.map Instruction.encode))]
  | iq i q =>
    .object [("kind", .text "iq"), ("i", .array (i.map Instruction.encode)),
      ("q", .array (q.map Instruction.encode))]

/-- The segment that a document holds. -/
def decode (json : Json) : Decoded Segment := do
  match ← Decode.tagged "kind" ["single", "iq"] false json with
  | ("single", content) =>
    let record ← Decode.fields ["instructions"] content
    return .single (← record.required "instructions" (Decode.list (Instruction.decode true)))
  | ("iq", content) =>
    let record ← Decode.fields ["i", "q"] content
    let i ← record.required "i" (Decode.list (Instruction.decode true))
    return .iq i (← record.required "q" (Decode.list (Instruction.decode true)))
  | _ => .error .malformed

end Segment

/-- A record of a timeline as a document. -/
def TimelineRecord.encode (record : TimelineRecord) : Json :=
  .object
    [("channel", .text record.channel), ("kind", record.kind.encode),
      ("segments", .array (record.segments.map Segment.encode)),
      ("phase", .float record.phase.value)]

/-- The record of a timeline that a document holds. -/
def TimelineRecord.decode (json : Json) : Decoded TimelineRecord := do
  let record ← Decode.fields ["channel", "kind", "segments", "phase"] json
  let channel ← record.required "channel" Decode.string
  let kind ← record.required "kind" ChannelKind.decode
  let segments ← record.required "segments" (Decode.list Segment.decode)
  return ⟨channel, kind, segments, ⟨← record.required "phase" Decode.float⟩⟩

namespace Timeline

/-- A timeline as a document. -/
def encode (timeline : Timeline) : Json := timeline.toRecord.encode

/-- The timeline that a document holds. -/
def decode (json : Json) : Decoded Timeline := do
  let record ← TimelineRecord.decode json
  record.toTimeline.mapError .timeline

end Timeline

namespace Store

/-- A store as a document: its timelines by element. -/
def encode (store : Store) : Json := store.timelines.encode Timeline.encode

/-- The store that a document holds. -/
def decode (json : Json) : Decoded Store := do
  return ⟨← Decode.table Timeline.decode json⟩

end Store

end PulseTimeline
