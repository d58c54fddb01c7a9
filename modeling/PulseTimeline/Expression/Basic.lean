import PulseTimeline.Expression.Operator

set_option autoImplicit false

/-! # Expressions

The syntax of expressions, how they are put together and how they are rendered. Literals keep their
text; it is read when the expression is evaluated. -/

namespace PulseTimeline

/-- An expression over the variables of a program. -/
inductive Expression where
  | reference (name : String)
  /-- The text of a literal and the type it is to have, if one is fixed. -/
  | literal (text : String) (type : Option ScalarType)
  | binary (left : Expression) (operator : BinaryOperator) (right : Expression)
  | unary (operator : UnaryOperator) (operand : Expression)
  | call (library : String) (function : String) (arguments : List Expression)
  | cell (array : String) (index : Expression)

namespace Expression

instance : Inhabited Expression := ⟨reference ""⟩

/-- The literal of a value, typed like it. -/
def ofValue (value : Value) : Expression := literal value.text (some value.type)

mutual

/-- The surface text of an expression. Every binary operation stands in parentheses. -/
def text : Expression → String
  | reference name => name
  | literal text _ => text
  | binary left operator right =>
    "(" ++ left.text ++ " " ++ operator.names.symbol ++ " " ++ right.text ++ ")"
  | unary operator operand => operator.names.symbol ++ operand.text
  | call library function arguments =>
    library ++ "." ++ function ++ "(" ++ ", ".intercalate (texts arguments) ++ ")"
  | cell array index => array ++ "[" ++ index.text ++ "]"

/-- The surface texts of a list of expressions. -/
def texts : List Expression → List String
  | [] => []
  | e :: rest => e.text :: texts rest

end

end Expression

end PulseTimeline
