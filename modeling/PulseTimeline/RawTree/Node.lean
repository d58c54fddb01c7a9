import PulseTimeline.Json.Printer
import PulseTimeline.RawTree.Error

set_option autoImplicit false

/-! # Nodes of a raw tree

A node is a mapping of which every key is checked: only the fields of its kind and the location
metadata may occur. An absent field and a null one are the same. Statements and expressions are
mappings with a single entry, whose key names their kind. -/

namespace PulseTimeline.RawTree

/-- The key of the location metadata, which is ignored wherever it stands. -/
def locationKey : String := "loc"

/-- A mapping whose keys have been checked. -/
structure Node where
  kind : String
  members : List (String × Json)

/-- Check that a document is a mapping with no other fields than the recognized ones. The first
    field that is not recognized is reported. -/
def Node.of (kind : String) (raw : Json) (recognized : List String) : Except TreeError Node :=
  match raw with
  | .object members =>
    match members.find? fun m => m.1 != locationKey && !recognized.contains m.1 with
    | some m => .error (.unhandledField kind m.1)
    | none => .ok ⟨kind, members⟩
  | _ => .error (.invalidType kind "a mapping")

namespace Node

/-- The value of a field that is present and not null. -/
def optional (node : Node) (field : String) : Option Json :=
  match node.members.lookup field with
  | some .null => none
  | other => other

/-- The value of a field that has to be there. -/
def required (node : Node) (field : String) : Except TreeError Json :=
  match node.optional field with
  | some value => .ok value
  | none => .error (.missingField node.kind field)

/-- A document that has to be a string. -/
def string (node : Node) : Json → Except TreeError String
  | .text value => .ok value
  | _ => .error (.invalidType node.kind "a string")

/-- The string in a field that has to be there. -/
def requiredString (node : Node) (field : String) : Except TreeError String := do
  node.string (← node.required field)

/-- The string in a field that may be absent. -/
def optionalString (node : Node) (field : String) : Except TreeError (Option String) :=
  match node.optional field with
  | some value => return some (← node.string value)
  | none => .ok none

/-- The items of a list in a field; an absent field has none. -/
def list (node : Node) (field : String) : Except TreeError (List Json) :=
  match node.optional field with
  | none => .ok []
  | some (.array items) => .ok items
  | some _ => .error (.invalidType node.kind "a list")

end Node

/-- The only entry of a mapping, location metadata apart. -/
def singleEntry (category : String) (raw : Json) : Except TreeError (String × Json) :=
  match raw with
  | .object members =>
    match members.filter fun m => m.1 != locationKey with
    | [entry] => .ok entry
    | [] => .error (.emptyNode category)
    | entries => .error (.ambiguousNode category (entries.map Prod.fst))
  | _ => .error (.invalidType category "a mapping")

/-- The text of a literal, which may be given as a string, a number or a truth value. -/
def literalText (kind : String) : Json → Except TreeError String
  | .text value => .ok value
  | .int value => .ok (Decimal.integerText value)
  | .float value => .ok (Json.renderFloat value)
  | .bool value => .ok (if value then "true" else "false")
  | _ => .error (.invalidType kind "a literal")

/-- The name in a node that has no other field. -/
def nameIn (kind : String) (raw : Json) : Except TreeError String := do
  (← Node.of kind raw ["name"]).requiredString "name"

/-- The type of the given name. -/
def scalarType (name : String) : Except TreeError ScalarType :=
  match ScalarType.ofName? name with
  | some type => .ok type
  | none => .error (.unknownScalarType name)

/-- The value that a literal spells. -/
def literalValue (text : String) (expected : Option ScalarType) : Except TreeError Value :=
  (Value.ofLiteral text expected).mapError .invalidLiteral

end PulseTimeline.RawTree
