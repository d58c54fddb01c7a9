import PulseTimeline.Codec.Expression
import PulseTimeline.Statement.Basic

set_option autoImplicit false

/-! # Statements as documents -/

namespace PulseTimeline

/-- A pulse as a document. -/
def Pulse.encode : Pulse → Json
  | named operation => .object [("Named", .text operation)]
  | ramp slope => .object [("Ramp", .object [("value", slope.encode)])]

/-- A target as a document. -/
def Target.encode : Target → Json
  | reference name => .object [("Reference", Expression.encodeName name)]
  | cell array index =>
    .object [("ArrayCell", .object
      [("array", Expression.encodeName array), ("index", index.encode)])]

/-- Names as a document. -/
def Json.ofNames (names : List String) : Json := .array (names.map .text)

namespace Statement

mutual

/-- A statement as a document. -/
def encode : Statement → Json
  | play pulse element amplitude duration =>
    .object [("Play", .object
      [("operation", pulse.encode), ("element", .text element),
        ("amplitude", Json.ofOption Expression.encode amplitude),
        ("duration", Json.ofOption Expression.encode duration)])]
  | measure element operation =>
    .object [("Measure", .object
      [("element", .text element), ("operation", Json.ofOption .text operation)])]
  | align elements => .object [("Align", .object [("elements", Json.ofNames elements)])]
  | assign target value =>
    .object [("Assign", .object [("target", target.encode), ("value", value.encode)])]
  | branch condition body elseIfs elseBody =>
    .object [("If", .object
      [("condition", condition.encode), ("body", .array (encodeAll body)),
        ("else_ifs", .array (encodeGuarded "condition" elseIfs)),
        ("else_body", encodeOptional elseBody)])]
  | resetPhase elements => .object [("ResetPhase", .object [("elements", Json.ofNames elements)])]
  | rampToZero element duration =>
    .object [("RampToZero", .object
      [("element", .text element), ("duration", Json.ofOption Expression.encode duration)])]
  | wait duration elements =>
    .object [("Wait", .object
      [("duration", duration.encode), ("elements", Json.ofNames elements)])]
  | frameRotation angle elements =>
    .object [("FrameRotation", .object
      [("angle", angle.encode), ("elements", Json.ofNames elements)])]
  | loop init condition update body =>
    .object [("For", .object
      [("init", .array (encodeAll init)), ("condition", condition.encode),
        ("update", .array (encodeAll update)), ("body", .array (encodeAll body))])]
  | switch subject cases default =>
    .object [("Switch", .object
      [("subject", subject.encode), ("cases", .array (encodeGuarded "value" cases)),
        ("default", encodeOptional default)])]
  | strictTiming body => .object [("StrictTiming", .object [("body", .array (encodeAll body))])]
  | save value stream =>
    .object [("Save", .object [("value", value.encode), ("stream", .text stream)])]

/-- Statements as documents. -/
def encodeAll : List Statement → List Json
  | [] => []
  | first :: rest => first.encode :: encodeAll rest

/-- Blocks under expressions of their own as documents. -/
def encodeGuarded (guard : String) : List (Expression × List Statement) → List Json
  | [] => []
  | (condition, body) :: rest =>
    .object [(guard, condition.encode), ("body", .array (encodeAll body))] ::
      encodeGuarded guard rest

/-- A block that may be absent as a document. -/
def encodeOptional : Option (List Statement) → Json
  | none => .null
  | some body => .array (encodeAll body)

end

/-- The pulse that a document holds. -/
def decodePulse (height : Nat) (json : Json) : Decoded Pulse := do
  match ← Decode.choiceWithContent json with
  | ("Named", content) => return .named (← Decode.string content)
  | ("Ramp", content) =>
    let record ← Decode.fields ["value"] content
    return .ramp (← record.required "value" (Expression.decode height))
  | _ => .error .malformed

/-- The target that a document holds. -/
def decodeTarget (height : Nat) (json : Json) : Decoded Target := do
  match ← Decode.choiceWithContent json with
  | ("Reference", content) => return .reference (← Expression.decodeName content)
  | ("ArrayCell", content) =>
    let record ← Decode.fields ["array", "index"] content
    let array ← record.required "array" Expression.decodeName
    return .cell array (← record.required "index" (Expression.decode height))
  | _ => .error .malformed

/-- The only field of a document, a list of names. -/
def decodeElements (json : Json) : Decoded (List String) := do
  (← Decode.fields ["elements"] json).required "elements" (Decode.list Decode.string)

mutual

/-- The statement that a document holds. The height bounds the nesting of the document; one of
    height zero holds none. -/
def decode : Nat → Json → Decoded Statement
  | 0, _ => .error .malformed
  | height + 1, json => do
    match ← Decode.choiceWithContent json with
    | ("Play", content) =>
      let record ← Decode.fields ["operation", "element", "amplitude", "duration"] content
      let pulse ← record.required "operation" (decodePulse height)
      let element ← record.required "element" Decode.string
      let amplitude ← record.optional "amplitude" (Expression.decode height)
      let duration ← record.optional "duration" (Expression.decode height)
      return .play pulse element amplitude duration
    | ("Measure", content) =>
      let record ← Decode.fields ["element", "operation"] content
      let element ← record.required "element" Decode.string
      return .measure element (← record.optional "operation" Decode.string)
    | ("Align", content) => return .align (← decodeElements content)
    | ("Assign", content) =>
      let record ← Decode.fields ["target", "value"] content
      let target ← record.required "target" (decodeTarget height)
      return .assign target (← record.required "value" (Expression.decode height))
    | ("If", content) =>
      let record ← Decode.fields ["condition", "body", "else_ifs", "else_body"] content
      let condition ← record.required "condition" (Expression.decode height)
      let body ← record.required "body" (Decode.list (decode height))
      let elseIfs ← record.required "else_ifs" (Decode.list (decodeGuarded height "condition"))
      let elseBody ← record.optional "else_body" (Decode.list (decode height))
      return .branch condition body elseIfs elseBody
    | ("ResetPhase", content) => return .resetPhase (← decodeElements content)
    | ("RampToZero", content) =>
      let record ← Decode.fields ["element", "duration"] content
      let element ← record.required "element" Decode.string
      return .rampToZero element (← record.optional "duration" (Expression.decode height))
    | ("Wait", content) =>
      let record ← Decode.fields ["duration", "elements"] content
      let duration ← record.required "duration" (Expression.decode height)
      return .wait duration (← record.required "elements" (Decode.list Decode.string))
    | ("FrameRotation", content) =>
      let record ← Decode.fields ["angle", "elements"] content
      let angle ← record.required "angle" (Expression.decode height)
      return .frameRotation angle (← record.required "elements" (Decode.list Decode.string))
    | ("For", content) =>
      let record ← Decode.fields ["init", "condition", "update", "body"] content
      let init ← record.required "init" (Decode.list (decode height))
      let condition ← record.required "condition" (Expression.decode height)
      let update ← record.required "update" (Decode.list (decode height))
      return .loop init condition update (← record.required "body" (Decode.list (decode height)))
    | ("Switch", content) =>
      let record ← Decode.fields ["subject", "cases", "default"] content
      let subject ← record.required "subject" (Expression.decode height)
      let cases ← record.required "cases" (Decode.list (decodeGuarded height "value"))
      return .switch subject cases (← record.optional "default" (Decode.list (decode height)))
    | ("StrictTiming", content) =>
      let record ← Decode.fields ["body"] content
      return .strictTiming (← record.required "body" (Decode.list (decode height)))
    | ("Save", content) =>
      let record ← Decode.fields ["value", "stream"] content
      let value ← record.required "value" (Expression.decode height)
      return .save value (← record.required "stream" Decode.string)
    | _ => .error .malformed

/-- The block under an expression of its own that a document holds. -/
def decodeGuarded : Nat → String → Json → Decoded (Expression × List Statement)
  | 0, _, _ => .error .malformed
  | height + 1, guard, json => do
    let record ← Decode.fields [guard, "body"] json
    let condition ← record.required guard (Expression.decode height)
    return (condition, ← record.required "body" (Decode.list (decode height)))

end

end Statement

end PulseTimeline
