import PulseTimeline.Codec.Decoder
import PulseTimeline.Value.Basic

set_option autoImplicit false

/-! # Values as documents -/

namespace PulseTimeline

/-- A type as a document: its name. -/
def ScalarType.encode (type : ScalarType) : Json := .text type.text

/-- The type that a document names. -/
def ScalarType.decode (json : Json) : Decoded ScalarType := do
  match ← Decode.choiceName json with
  | "INT" => .ok .int
  | "REAL" => .ok .real
  | "FIXED" => .ok .real
  | "BOOL" => .ok .bool
  | _ => .error .malformed

/-- A value as a document: its type and its content. -/
def Value.encode : Value → Json
  | .int n => .object [("Int", .int n.toInt)]
  | .real x => .object [("Real", .float x)]
  | .bool b => .object [("Bool", .bool b)]

/-- The value that a document holds. -/
def Value.decode (json : Json) : Decoded Value := do
  match ← Decode.choiceWithContent json with
  | ("Int", content) => return .int (← Decode.int64 content)
  | ("Real", content) => return .real (← Decode.float content)
  | ("Bool", content) => return .bool (← Decode.bool content)
  | _ => .error .malformed

/-- A document for something that may be absent. -/
def Json.ofOption {α : Type} (encode : α → Json) : Option α → Json
  | some a => encode a
  | none => .null

/-- A table as a document. -/
def Table.encode {α : Type} (encode : α → Json) (table : Table α) : Json :=
  .object (table.entries.map fun entry => (entry.1, encode entry.2))

end PulseTimeline
