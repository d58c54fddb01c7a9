import PulseTimeline.Program
import PulseTimeline.Run.Error
import PulseTimeline.Table

set_option autoImplicit false

/-! # The variables of a run

Variables are scalars or arrays. An assignment casts to the type that the variable already has, and
an assignment that fails changes nothing. -/

namespace PulseTimeline

/-- What a name stands for. -/
inductive Variable where
  | scalar (value : Value)
  | array (type : ScalarType) (values : Array Value)
  deriving DecidableEq

/-- The variables, in the order of their first definition. -/
structure Environment where
  bindings : Table Variable
  deriving DecidableEq

namespace Environment

/-- The environment without variables. -/
def empty : Environment := ⟨.empty⟩

instance : Inhabited Environment := ⟨empty⟩

/-- What a name stands for, if it is defined. -/
def find? (environment : Environment) (name : String) : Option Variable :=
  environment.bindings.find? name

/-- Let a name stand for a variable. -/
def put (environment : Environment) (name : String) (meaning : Variable) : Environment :=
  ⟨environment.bindings.insert name meaning⟩

/-! ## Reading -/

/-- What a name stands for. -/
def lookup (environment : Environment) (name : String) : Except RunError Variable :=
  match environment.find? name with
  | some found => .ok found
  | none => .error (.unboundVariable name)

/-- The value of a scalar. -/
def scalar (environment : Environment) (name : String) : Except RunError Value := do
  match ← environment.lookup name with
  | .scalar value => .ok value
  | .array .. => .error (.notAScalar name)

/-- The values of an array. -/
def array (environment : Environment) (name : String) : Except RunError (Array Value) := do
  match ← environment.lookup name with
  | .array _ values => .ok values
  | .scalar _ => .error (.notAnArray name)

/-- The position in an array that an index stands for. -/
def slot (array : String) (index : Int64) (length : Nat) : Except RunError (Fin length) :=
  if h : 0 ≤ index.toInt ∧ index.toInt.toNat < length then .ok ⟨index.toInt.toNat, h.2⟩
  else .error (.indexOutOfBounds array index length)

/-- The value of an array at an index. -/
def element (environment : Environment) (name : String) (index : Int64) :
    Except RunError Value := do
  let values ← environment.array name
  let position ← slot name index values.size
  return values[position]

/-! ## Writing -/

/-- A change to the environment. -/
abbrev Edit := EStateM RunError Environment Unit

/-- Bring a list to a size: cut it, or fill it up. -/
def resized (values : List Value) (size : Nat) (fill : Value) : List Value :=
  values.take size ++ List.replicate (size - values.length) fill

/-- Define a variable as a declaration says. A name that is already defined is redefined where it
    stands. -/
def define (definition : Definition) : Edit := fun environment =>
  match definition with
  | .scalar name _ value => .ok () (environment.put name (.scalar value))
  | .array name type values size =>
    if maxArraySize < size then .error (.arrayTooLarge name size maxArraySize) environment
    else .ok () (environment.put name (.array type (resized values size type.zero).toArray))

/-- Assign to a scalar. -/
def assign (name : String) (value : Value) : Edit := fun environment =>
  match environment.lookup name with
  | .error e => .error e environment
  | .ok (.scalar current) => .ok () (environment.put name (.scalar (value.cast current.type)))
  | .ok (.array ..) => .error (.notAScalar name) environment

/-- Assign to an array at an index. -/
def assignElement (name : String) (index : Int64) (value : Value) : Edit := fun environment =>
  match environment.lookup name with
  | .error e => .error e environment
  | .ok (.scalar _) => .error (.notAnArray name) environment
  | .ok (.array type values) =>
    match slot name index values.size with
    | .error e => .error e environment
    | .ok position =>
      .ok () (environment.put name (.array type (values.set position (value.cast type))))

/-- The environment that declarations set up, one after the other. -/
def ofDefinitions (definitions : List Definition) : Except RunError Environment :=
  match (definitions.forM define).run empty with
  | .ok _ environment => .ok environment
  | .error e _ => .error e

end Environment

end PulseTimeline
