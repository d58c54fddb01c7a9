import PulseTimeline.Expression.Basic
import PulseTimeline.RawTree.Node

set_option autoImplicit false

/-! # Expressions in raw trees

Each kind of expression is a node with its own fields. Literals are read once here, so that one
that no reading accepts is refused with the tree and not when it is evaluated. -/

namespace PulseTimeline.RawTree

/-- A literal: its text and its type. -/
def literalExpression (body : Json) : Except TreeError Expression := do
  let node ← Node.of "literal" body ["value", "type"]
  let text ← literalText "literal" (← node.required "value")
  let type ← (← node.optionalString "type").mapM scalarType
  let _ ← literalValue text type
  return .literal text type

/-- The operator between two operands that a node names. -/
def binaryOperator (node : Node) : Except TreeError BinaryOperator := do
  let name ← node.requiredString "op"
  match BinaryOperator.ofName? name with
  | some operator => .ok operator
  | none => .error (.unknownOperator name)

/-- The operator before an operand that a node names. -/
def unaryOperator (node : Node) : Except TreeError UnaryOperator := do
  let name ← node.requiredString "op"
  match UnaryOperator.ofName? name with
  | some operator => .ok operator
  | none => .error (.unknownOperator name)

/-- The expression that a raw tree stands for. The height bounds the nesting of the tree; a tree of
    height zero is no mapping. -/
def expression : Nat → Json → Except TreeError Expression
  | 0, _ => .error (.invalidType "expression" "a mapping")
  | height + 1, raw => do
    let (kind, body) ← singleEntry "expression" raw
    match kind with
    | "variable" => return .reference (← nameIn "variable" body)
    | "literal" => literalExpression body
    | "binaryOperation" =>
      let node ← Node.of "binaryOperation" body ["left", "right", "op"]
      let operator ← binaryOperator node
      let left ← expression height (← node.required "left")
      let right ← expression height (← node.required "right")
      return .binary left operator right
    | "unaryOperation" =>
      let node ← Node.of "unaryOperation" body ["op", "value"]
      let operator ← unaryOperator node
      return .unary operator (← expression height (← node.required "value"))
    | "libFunction" =>
      let node ← Node.of "libFunction" body ["libraryName", "functionName", "arguments"]
      let arguments ← (← node.list "arguments").mapM (expression height)
      let library ← node.requiredString "libraryName"
      let function ← node.requiredString "functionName"
      return .call library function arguments
    | "arrayCell" =>
      let node ← Node.of "arrayCell" body ["arrayVar", "index"]
      let array ← nameIn "arrayVar" (← node.required "arrayVar")
      return .cell array (← expression height (← node.required "index"))
    | other => .error (.unhandledNode "expression" other)

end PulseTimeline.RawTree
