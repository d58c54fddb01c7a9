import PulseTimeline.Json.Reader
import PulseTimeline.Program
import PulseTimeline.RawTree.Statement

set_option autoImplicit false

/-! # Programs in raw trees

A raw tree is a mapping with the body of the program and the declarations of its variables. The
mappings of a tree that is read from text are in the order of their keys, so that the first field
that nobody recognizes does not depend on how the text was written. -/

namespace PulseTimeline

namespace RawTree

/-- The size in a declaration, which is one if it is absent. -/
def declaredSize (node : Node) (name : String) : Except TreeError Nat :=
  match node.optional "size" with
  | none => .ok 1
  | some (.int (.ofNat size)) =>
    if size ≤ maxArraySize then .ok size else .error (.arrayTooLarge name size maxArraySize)
  | some _ => .error (.invalidType "declaration" "a non-negative size")

/-- An initial value of a declaration, bare or in a node of its own. -/
def initialValue (type : ScalarType) (raw : Json) : Except TreeError Value := do
  let text ← match raw with
    | .object _ => do
      let node ← Node.of "value" raw ["value"]
      literalText "value" (← node.required "value")
    | other => literalText "value" other
  literalValue text (some type)

/-- The declaration of a variable. A size of one declares a scalar; an array has as many initial
    values as its size says, or none. -/
def definition (raw : Json) : Except TreeError Definition := do
  let node ← Node.of "declaration" raw ["name", "type", "size", "value"]
  let name ← node.requiredString "name"
  let type ← scalarType (← node.requiredString "type")
  let size ← declaredSize node name
  let values ← (← node.list "value").mapM (initialValue type)
  if size = 1 then
    if values.length > 1 then .error (.definitionSizeMismatch name size values.length)
    else return .ofScalar name type values.head?
  else if !values.isEmpty && values.length ≠ size then
    .error (.definitionSizeMismatch name size values.length)
  else return .ofArray name type values size

end RawTree

/-- The program that a raw tree stands for. -/
def Program.ofTree (tree : Json) : Except TreeError Program := do
  let root ← RawTree.Node.of "program" tree ["body", "variables"]
  let body ← RawTree.block tree.height (← root.required "body")
  let definitions ← (← root.list "variables").mapM RawTree.definition
  return ⟨body, definitions⟩

/-- The program whose raw tree a text spells. The whole text has to be readable. -/
def Program.ofText (source : String) : Except TreeError Program :=
  match Json.readWhole? source with
  | some document => Program.ofTree document.canonical
  | none => .error .notJson

end PulseTimeline
