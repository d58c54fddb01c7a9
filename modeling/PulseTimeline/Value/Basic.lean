import PulseTimeline.Decimal.Binary64
import PulseTimeline.Decimal.Integer
import PulseTimeline.Decimal.Layout

set_option autoImplicit false

/-! # Values

Variables, literals and results are integers of sixty-four bits, doubles or truth values. `cast`
turns a value of one type into any other. -/

namespace PulseTimeline

/-- The type of a value. -/
inductive ScalarType where
  | int
  | real
  | bool
  deriving DecidableEq

/-- A number or truth value. -/
inductive Value where
  | int (value : Int64)
  | real (value : Float)
  | bool (value : Bool)
  deriving DecidableEq

namespace ScalarType

/-- The name of a type in declarations and messages. -/
def text : ScalarType → String
  | int => "INT"
  | real => "REAL"
  | bool => "BOOL"

/-- Every name under which a type may be declared. -/
def spellings : ScalarType → List String
  | int => ["INT", "int"]
  | real => ["REAL", "FIXED", "fixed"]
  | bool => ["BOOL", "bool"]

/-- The type of the given name. -/
def ofName? (name : String) : Option ScalarType :=
  [int, real, bool].find? fun type => type.spellings.contains name

/-- The value that a variable of the type has before any other. -/
def zero : ScalarType → Value
  | int => .int 0
  | real => .real 0.0
  | bool => .bool false

end ScalarType

namespace Value

instance : Inhabited Value := ⟨int 0⟩

/-- The type of a value. -/
def type : Value → ScalarType
  | int _ => .int
  | real _ => .real
  | bool _ => .bool

/-- The integer of sixty-four bits that is nearest to an integer. -/
def clampInt64 (n : Int) : Int64 :=
  Int64.ofInt (max Int64.minValue.toInt (min n Int64.maxValue.toInt))

/-- As an integer: doubles are cut toward zero and clamped to sixty-four bits, and what is not a
    number gives zero. -/
def toInt : Value → Int64
  | int n => n
  | real x => clampInt64 ((Binary64.ofFloat x).truncate (Int.ofNat (1 <<< 63)))
  | bool b => if b then 1 else 0

/-- As a double: integers go to the nearest. -/
def toReal : Value → Float
  | int n => Binary64.floatOfInt n.toInt
  | real x => x
  | bool b => if b then 1.0 else 0.0

/-- As a truth value: only zero is false. -/
def toBool : Value → Bool
  | int n => n != 0
  | real x => x != 0.0
  | bool b => b

/-- The value as a value of another type. -/
def cast (value : Value) : ScalarType → Value
  | .int => int value.toInt
  | .real => real value.toReal
  | .bool => bool value.toBool

@[simp] theorem type_cast (value : Value) (type : ScalarType) : (value.cast type).type = type := by
  cases type <;> rfl

@[simp] theorem type_zero (type : ScalarType) : type.zero.type = type := by
  cases type <;> rfl

/-- The text of a value. -/
def text : Value → String
  | int n => Decimal.integerText n.toInt
  | real x => Decimal.valueLayout.text x
  | bool b => if b then "true" else "false"

end Value

end PulseTimeline
