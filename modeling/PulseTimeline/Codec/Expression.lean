import PulseTimeline.Codec.Value
import PulseTimeline.Expression.Basic

set_option autoImplicit false

/-! # Expressions as documents -/

namespace PulseTimeline.Expression

/-- A document for a name that is referred to. -/
def encodeName (name : String) : Json := .object [("name", .text name)]

mutual

/-- An expression as a document. -/
def encode : Expression → Json
  | reference name => .object [("Reference", encodeName name)]
  | literal text type =>
    .object [("Literal", .object
      [("value", .text text), ("ty", Json.ofOption ScalarType.encode type)])]
  | binary left operator right =>
    .object [("Operation", .object [("Binary", .object
      [("left", left.encode), ("operator", .text operator.names.label),
        ("right", right.encode)])])]
  | unary operator operand =>
    .object [("Operation", .object [("Unary", .object
      [("operator", .text operator.names.label), ("operand", operand.encode)])])]
  | call library function arguments =>
    .object [("Function", .object
      [("library", .text library), ("name", .text function),
        ("arguments", .array (encodeAll arguments))])]
  | cell array index =>
    .object [("ArrayCell", .object [("array", encodeName array), ("index", index.encode)])]

/-- Expressions as documents. -/
def encodeAll : List Expression → List Json
  | [] => []
  | first :: rest => first.encode :: encodeAll rest

end

/-- The name in a document for a name that is referred to. -/
def decodeName (json : Json) : Decoded String := do
  (← Decode.fields ["name"] json).required "name" Decode.string

/-- The operator between two operands that a document names. -/
def decodeBinaryOperator (json : Json) : Decoded BinaryOperator := do
  match BinaryOperator.ofLabel? (← Decode.choiceName json) with
  | some operator => .ok operator
  | none => .error .malformed

/-- The operator before an operand that a document names. -/
def decodeUnaryOperator (json : Json) : Decoded UnaryOperator := do
  match UnaryOperator.ofLabel? (← Decode.choiceName json) with
  | some operator => .ok operator
  | none => .error .malformed

/-- The expression that a document holds. The height bounds the nesting of the document; one of
    height zero holds none. -/
def decode : Nat → Json → Decoded Expression
  | 0, _ => .error .malformed
  | height + 1, json => do
    match ← Decode.choiceWithContent json with
    | ("Reference", content) => return .reference (← decodeName content)
    | ("Literal", content) =>
      let record ← Decode.fields ["value", "ty"] content
      let text ← record.required "value" Decode.string
      return .literal text (← record.optional "ty" ScalarType.decode)
    | ("Operation", content) =>
      match ← Decode.choiceWithContent content with
      | ("Binary", operation) =>
        let record ← Decode.fields ["left", "operator", "right"] operation
        let left ← record.required "left" (decode height)
        let operator ← record.required "operator" decodeBinaryOperator
        let right ← record.required "right" (decode height)
        return .binary left operator right
      | ("Unary", operation) =>
        let record ← Decode.fields ["operator", "operand"] operation
        let operator ← record.required "operator" decodeUnaryOperator
        return .unary operator (← record.required "operand" (decode height))
      | _ => .error .malformed
    | ("Function", content) =>
      let record ← Decode.fields ["library", "name", "arguments"] content
      let library ← record.required "library" Decode.string
      let function ← record.required "name" Decode.string
      let arguments ← record.required "arguments" (Decode.list (decode height))
      return .call library function arguments
    | ("ArrayCell", content) =>
      let record ← Decode.fields ["array", "index"] content
      let array ← record.required "array" decodeName
      return .cell array (← record.required "index" (decode height))
    | _ => .error .malformed

end PulseTimeline.Expression
