import PulseTimeline.Value.Basic

set_option autoImplicit false

/-! # Operators and their names

Each operator has a symbol, which rendered expressions use, a mnemonic, which raw trees use beside
the symbol, and a label, which stands for it in stored programs. -/

namespace PulseTimeline

/-- An operator between two operands. -/
inductive BinaryOperator where
  | add
  | subtract
  | multiply
  | divide
  | modulo
  | equal
  | notEqual
  | lessThan
  | lessThanOrEqual
  | greaterThan
  | greaterThanOrEqual
  | and
  | or
  | bitwiseAnd
  | bitwiseOr
  | bitwiseXor
  | shiftLeft
  | shiftRight
  deriving DecidableEq

/-- An operator before its operand. -/
inductive UnaryOperator where
  | negate
  | not
  deriving DecidableEq

/-- The three names of an operator. -/
structure OperatorNames where
  symbol : String
  mnemonic : String
  label : String

namespace BinaryOperator

/-- Every operator between two operands. -/
def all : List BinaryOperator :=
  [add, subtract, multiply, divide, modulo, equal, notEqual, lessThan, lessThanOrEqual, greaterThan,
    greaterThanOrEqual, and, or, bitwiseAnd, bitwiseOr, bitwiseXor, shiftLeft, shiftRight]

/-- The names of an operator. -/
def names : BinaryOperator → OperatorNames
  | add => ⟨"+", "ADD", "Add"⟩
  | subtract => ⟨"-", "SUB", "Subtract"⟩
  | multiply => ⟨"*", "MULT", "Multiply"⟩
  | divide => ⟨"/", "DIV", "Divide"⟩
  | modulo => ⟨"%", "MOD", "Modulo"⟩
  | equal => ⟨"==", "EQ", "Equal"⟩
  | notEqual => ⟨"!=", "NEQ", "NotEqual"⟩
  | lessThan => ⟨"<", "LT", "LessThan"⟩
  | lessThanOrEqual => ⟨"<=", "LET", "LessThanOrEqual"⟩
  | greaterThan => ⟨">", "GT", "GreaterThan"⟩
  | greaterThanOrEqual => ⟨">=", "GET", "GreaterThanOrEqual"⟩
  | and => ⟨"&&", "AND", "And"⟩
  | or => ⟨"||", "OR", "Or"⟩
  | bitwiseAnd => ⟨"&", "BITWISE_AND", "BitwiseAnd"⟩
  | bitwiseOr => ⟨"|", "BITWISE_OR", "BitwiseOr"⟩
  | bitwiseXor => ⟨"^", "XOR", "BitwiseXor"⟩
  | shiftLeft => ⟨"<<", "SHL", "ShiftLeft"⟩
  | shiftRight => ⟨">>", "SHR", "ShiftRight"⟩

/-- The operator with the given symbol or mnemonic. -/
def ofName? (name : String) : Option BinaryOperator :=
  all.find? fun op => op.names.symbol == name || op.names.mnemonic == name

/-- The operator with the given label. -/
def ofLabel? (label : String) : Option BinaryOperator :=
  all.find? fun op => op.names.label == label

end BinaryOperator

namespace UnaryOperator

/-- Every operator before its operand. -/
def all : List UnaryOperator := [negate, not]

/-- The names of an operator. -/
def names : UnaryOperator → OperatorNames
  | negate => ⟨"-", "NEG", "Negate"⟩
  | not => ⟨"!", "NOT", "Not"⟩

/-- The operator with the given symbol or mnemonic. -/
def ofName? (name : String) : Option UnaryOperator :=
  all.find? fun op => op.names.symbol == name || op.names.mnemonic == name

/-- The operator with the given label. -/
def ofLabel? (label : String) : Option UnaryOperator :=
  all.find? fun op => op.names.label == label

end UnaryOperator

end PulseTimeline
