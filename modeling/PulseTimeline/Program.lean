import PulseTimeline.Statement.Basic

set_option autoImplicit false

/-! # Programs

A program declares variables and has a body of statements. Scalar variables start with a value of
their type, arrays with the given values followed by zeros up to their size. -/

namespace PulseTimeline

/-- The greatest size of an array variable. -/
def maxArraySize : Nat := 1 <<< 20

/-- The declaration of a variable. -/
inductive Definition where
  | scalar (name : String) (type : ScalarType) (value : Value)
  | array (name : String) (type : ScalarType) (values : List Value) (size : Nat)
  deriving DecidableEq

namespace Definition

/-- The name that is declared. -/
def name : Definition → String
  | scalar name .. => name
  | array name .. => name

/-- Declare a scalar with a value cast to its type, by default zero. -/
def ofScalar (name : String) (type : ScalarType) (value : Option Value) : Definition :=
  scalar name type (match value with
    | some v => v.cast type
    | none => type.zero)

/-- Declare an array with leading values cast to its type. -/
def ofArray (name : String) (type : ScalarType) (values : List Value) (size : Nat) : Definition :=
  array name type (values.map fun v => v.cast type) size

end Definition

/-- A program: its statements and the variables that they use. -/
structure Program where
  body : List Statement
  definitions : List Definition

namespace Program

instance : Inhabited Program := ⟨⟨[], []⟩⟩

/-- The first declaration of a name. -/
def definition? (program : Program) (name : String) : Option Definition :=
  program.definitions.find? fun d => d.name == name

end Program

end PulseTimeline
