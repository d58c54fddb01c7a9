import PulseTimeline.Codec.Statement
import PulseTimeline.Json.Reader
import PulseTimeline.Program

set_option autoImplicit false

/-! # Programs as documents -/

namespace PulseTimeline

/-- A declaration as a document. -/
def Definition.encode : Definition → Json
  | scalar name type value =>
    .object [("Scalar", .object
      [("name", .text name), ("ty", type.encode), ("value", value.encode)])]
  | array name type values size =>
    .object [("Array", .object
      [("name", .text name), ("ty", type.encode), ("values", .array (values.map Value.encode)),
        ("size", .int (Int.ofNat size))])]

/-- The declaration that a document holds. -/
def Definition.decode (json : Json) : Decoded Definition := do
  match ← Decode.choiceWithContent json with
  | ("Scalar", content) =>
    let record ← Decode.fields ["name", "ty", "value"] content
    let name ← record.required "name" Decode.string
    let type ← record.required "ty" ScalarType.decode
    return .scalar name type (← record.required "value" Value.decode)
  | ("Array", content) =>
    let record ← Decode.fields ["name", "ty", "values", "size"] content
    let name ← record.required "name" Decode.string
    let type ← record.required "ty" ScalarType.decode
    let values ← record.required "values" (Decode.list Value.decode)
    return .array name type values (← record.required "size" (Decode.natural 64))
  | _ => .error .malformed

namespace Program

/-- A program as a document. -/
def encode (program : Program) : Json :=
  .object
    [("body", .array (Statement.encodeAll program.body)),
      ("definitions", .array (program.definitions.map Definition.encode))]

/-- The program that a document holds. -/
def decode (json : Json) : Decoded Program := do
  let record ← Decode.fields ["body", "definitions"] json
  let body ← record.required "body" (Decode.list (Statement.decode json.height))
  return ⟨body, ← record.required "definitions" (Decode.list Definition.decode)⟩

/-- The program whose document a text spells. -/
def ofStored (source : String) : Decoded Program :=
  match Json.read? source with
  | some document => decode document
  | none => .error .malformed

end Program

end PulseTimeline
