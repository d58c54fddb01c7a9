import PulseTimeline.Proofs.Environment.Access
import PulseTimeline.Run.Evaluate

set_option autoImplicit false

/-! # The types of expressions

Values carry their types, and nothing checks an expression before it runs. Still its type does not
depend on values: `Expression.type?` infers it from the types of the variables alone, and
`type?_of_evaluate` says that a value has the inferred type whenever there is a value. -/

namespace PulseTimeline

/-! ## Operators -/

/-- The type to which arithmetic brings its operands. -/
def ScalarType.promoted : ScalarType → ScalarType → ScalarType
  | real, _ => real
  | _, real => real
  | _, _ => int

/-- The type to which two operands have been brought. -/
def Promoted.type : Promoted → ScalarType
  | int _ _ => .int
  | real _ _ => .real

theorem Promoted.type_ofValues (left right : Value) :
    (Promoted.ofValues left right).type = left.type.promoted right.type := by
  cases left <;> cases right <;> rfl

namespace BinaryOperator

/-- The type of a bitwise operation, if there is one. -/
def bitwiseType? : ScalarType → ScalarType → Option ScalarType
  | .real, _ => none
  | _, .real => none
  | .bool, .bool => some .bool
  | _, _ => some .int

/-- The type of a shift, if there is one. -/
def shiftType? : ScalarType → ScalarType → Option ScalarType
  | .int, .int => some .int
  | _, _ => none

/-- The type of the result on operands of two types, if there can be one. -/
def type? (operator : BinaryOperator) (left right : ScalarType) : Option ScalarType :=
  match operator with
  | add | subtract | multiply | divide | modulo => some (left.promoted right)
  | equal | notEqual | lessThan | lessThanOrEqual | greaterThan | greaterThanOrEqual => some .bool
  | and | or => some .bool
  | bitwiseAnd | bitwiseOr | bitwiseXor => bitwiseType? left right
  | shiftLeft | shiftRight => shiftType? left right

theorem type_of_arithmetic {operator : BinaryOperator} {onInt : Int64 → Int64 → Int64}
    {onReal : Float → Float → Float} {divides : Bool} {left right value : Value}
    (h : arithmetic operator onInt onReal divides left right = .ok value) :
    some (left.type.promoted right.type) = some value.type := by
  rw [← Promoted.type_ofValues]
  unfold arithmetic at h
  split at h
  · next heq =>
      rw [heq]
      split at h
      · cases h
      · cases h
        rfl
  · next heq =>
      rw [heq]
      split at h
      · cases h
      · cases h
        rfl

theorem type_comparison (onInt : Int64 → Int64 → Bool) (onReal : Float → Float → Bool)
    (left right : Value) : (comparison onInt onReal left right).type = .bool := by
  unfold comparison
  split <;> rfl

theorem type_of_bitwise {operator : BinaryOperator} {onBool : Bool → Bool → Bool}
    {onInt : Int64 → Int64 → Int64} {left right value : Value}
    (h : bitwise operator onBool onInt left right = .ok value) :
    bitwiseType? left.type right.type = some value.type := by
  cases left <;> cases right <;> cases h <;> rfl

theorem type_of_shift {operator : BinaryOperator} {onInt : Int64 → Int64 → Int64}
    {left right value : Value} (h : shift operator onInt left right = .ok value) :
    shiftType? left.type right.type = some value.type := by
  unfold shift at h
  split at h
  · split at h
    · cases h
      rfl
    · cases h
  · cases h

/-- The type of a result is known from the types of the operands. -/
theorem type?_of_calculate {operator : BinaryOperator} {left right value : Value}
    (h : operator.calculate left right = .ok value) :
    operator.type? left.type right.type = some value.type := by
  cases operator with
  | add | subtract | multiply | divide | modulo => exact type_of_arithmetic h
  | bitwiseAnd | bitwiseOr | bitwiseXor => exact type_of_bitwise h
  | shiftLeft | shiftRight => exact type_of_shift h
  | and | or =>
      cases h
      rfl
  | equal | notEqual | lessThan | lessThanOrEqual | greaterThan | greaterThanOrEqual =>
      cases h
      rw [type?, type_comparison]

end BinaryOperator

namespace UnaryOperator

/-- The type of the result on an operand of a type, if there can be one. -/
def type? : UnaryOperator → ScalarType → Option ScalarType
  | negate, .bool => none
  | negate, type => some type
  | not, _ => some .bool

theorem type?_of_calculate {operator : UnaryOperator} {operand value : Value}
    (h : operator.calculate operand = .ok value) :
    operator.type? operand.type = some value.type := by
  cases operator with
  | negate => cases operand <;> cases h <;> rfl
  | not =>
      cases h
      rfl

end UnaryOperator

/-! ## Functions and literals -/

/-- The type of what a function returns. -/
def Builtin.type : Builtin → ScalarType
  | mulFixedByInt => .real
  | randInt => .int

theorem type_of_callFunction {library name : String} {arguments : List Value} {value : Value}
    {pool next : Random.Pool}
    (h : (callFunction library name arguments).run pool = .ok value next) :
    (Builtin.ofName? name).map Builtin.type = some value.type := by
  unfold callFunction at h
  split at h
  · exact absurd h run_throw_ne_ok
  · next hname =>
      obtain ⟨rfl, -⟩ := run_pure_eq_ok.1 h
      rw [hname]
      rfl
  · next hname =>
      obtain ⟨n, middle, -, hreturn⟩ := run_bind_eq_ok.1 h
      obtain ⟨rfl, -⟩ := run_pure_eq_ok.1 hreturn
      rw [hname]
      rfl
  · exact absurd h run_throw_ne_ok

/-- The type that is fixed for a literal, or else that of the value that its text spells. -/
def literalType? (text : String) (expected : Option ScalarType) : Option ScalarType :=
  match expected with
  | some type => some type
  | none => (Value.ofTrimmed? (Text.trim text.toList)).map Value.type

theorem type_of_ofLiteral {text : String} {expected : Option ScalarType} {value : Value}
    (h : Value.ofLiteral text expected = .ok value) :
    literalType? text expected = some value.type := by
  unfold Value.ofLiteral at h
  split at h
  · cases h
  · next spelled hspelled =>
      cases h
      cases expected with
      | none => rw [literalType?, hspelled, Option.map_some]
      | some type => rw [literalType?, Value.type_cast]

/-! ## Variables -/

/-- The type of a variable. -/
inductive VariableType where
  | scalar (type : ScalarType)
  | array (type : ScalarType)
  deriving DecidableEq

/-- What the types of variables are; names without a type are not defined. -/
abbrev VariableTypes := String → Option VariableType

/-- A scalar has the type of its value; all values of an array have the type of the array. -/
inductive Variable.HasType : Variable → VariableType → Prop where
  | scalar {value : Value} {type : ScalarType} (h : value.type = type) :
    HasType (.scalar value) (.scalar type)
  | array {type : ScalarType} {values : Array Value} (h : ∀ value ∈ values, value.type = type) :
    HasType (.array type values) (.array type)

/-- Every variable that is defined has its type. -/
def Environment.HasTypes (environment : Environment) (types : VariableTypes) : Prop :=
  ∀ name found, environment.find? name = some found →
    ∃ type, types name = some type ∧ found.HasType type

namespace Environment

variable {environment : Environment} {types : VariableTypes}

theorem HasTypes.scalar (h : environment.HasTypes types) {name : String} {value : Value}
    (hvalue : environment.scalar name = .ok value) : types name = some (.scalar value.type) := by
  obtain ⟨type, htype, hfound⟩ := h name _ (scalar_eq_ok_iff.1 hvalue)
  cases hfound with
  | scalar htyped => rw [htype, htyped]

theorem HasTypes.element (h : environment.HasTypes types) {name : String} {index : Int64}
    {value : Value} (hvalue : environment.element name index = .ok value) :
    types name = some (.array value.type) := by
  obtain ⟨values, harray, hvalue⟩ := except_bind_eq_ok.1 hvalue
  obtain ⟨position, -, hvalue⟩ := except_bind_eq_ok.1 hvalue
  obtain ⟨arrayType, hfound⟩ := array_eq_ok_iff.1 harray
  obtain ⟨type, htype, hfound⟩ := h name _ hfound
  cases hfound with
  | array htyped =>
      cases hvalue
      have hmem : values[position] ∈ values := Array.getElem_mem position.isLt
      rw [htype, htyped values[position] hmem]

end Environment

/-! ## Expressions -/

/-- The type that the value of an expression has, as far as it can have one, where the variables
    have the given types. -/
def Expression.type? (types : VariableTypes) : Expression → Option ScalarType
  | .reference name => match types name with
    | some (.scalar type) => some type
    | _ => none
  | .literal text expected => literalType? text expected
  | .binary left operator right => do operator.type? (← left.type? types) (← right.type? types)
  | .unary operator operand => do operator.type? (← operand.type? types)
  | .call _ function _ => (Builtin.ofName? function).map Builtin.type
  | .cell array index => match types array, index.type? types with
    | some (.array type), some .int => some type
    | _, _ => none

theorem type_of_expectInteger {expression : Expression} {value : Value} {n : Int64}
    (h : expectInteger expression value = .ok n) : value.type = .int := by
  cases value with
  | int m => rfl
  | real x => cases h
  | bool b => cases h

/-- **Values have the inferred types.** -/
theorem type?_of_evaluate {environment : Environment} {types : VariableTypes}
    (htypes : environment.HasTypes types) :
    (expression : Expression) → {pool next : Random.Pool} → {value : Value} →
      (evaluate environment expression).run pool = .ok value next →
        expression.type? types = some value.type
  | .reference name, pool, next, value, h => by
      rw [evaluate] at h
      obtain ⟨hvalue, -⟩ := run_liftOutcome_eq_ok.1 h
      rw [Expression.type?, htypes.scalar hvalue]
  | .literal text expected, pool, next, value, h => by
      rw [evaluate] at h
      obtain ⟨hvalue, -⟩ := run_liftOutcome_eq_ok.1 h
      rw [Expression.type?]
      exact type_of_ofLiteral (mapError_eq_ok.1 hvalue)
  | .binary left operator right, pool, next, value, h => by
      rw [evaluate] at h
      obtain ⟨l, first, hleft, h⟩ := run_bind_eq_ok.1 h
      obtain ⟨r, second, hright, h⟩ := run_bind_eq_ok.1 h
      obtain ⟨hvalue, -⟩ := run_liftOutcome_eq_ok.1 h
      rw [Expression.type?, type?_of_evaluate htypes left hleft,
        type?_of_evaluate htypes right hright]
      exact BinaryOperator.type?_of_calculate (mapError_eq_ok.1 hvalue)
  | .unary operator operand, pool, next, value, h => by
      rw [evaluate] at h
      obtain ⟨v, first, hoperand, h⟩ := run_bind_eq_ok.1 h
      obtain ⟨hvalue, -⟩ := run_liftOutcome_eq_ok.1 h
      rw [Expression.type?, type?_of_evaluate htypes operand hoperand]
      exact UnaryOperator.type?_of_calculate (mapError_eq_ok.1 hvalue)
  | .call library function arguments, pool, next, value, h => by
      rw [evaluate] at h
      obtain ⟨values, first, -, hcall⟩ := run_bind_eq_ok.1 h
      rw [Expression.type?]
      exact type_of_callFunction hcall
  | .cell array index, pool, next, value, h => by
      rw [evaluate] at h
      obtain ⟨v, first, hindex, h⟩ := run_bind_eq_ok.1 h
      obtain ⟨n, second, hposition, h⟩ := run_bind_eq_ok.1 h
      have hint := type_of_expectInteger (run_liftOutcome_eq_ok.1 hposition).1
      have helement := htypes.element (run_liftOutcome_eq_ok.1 h).1
      rw [Expression.type?, type?_of_evaluate htypes index hindex, helement, hint]

/-- A truth value and an integer have bits in common as integers. -/
example : (Expression.binary (.reference "b") .bitwiseAnd (.literal "6" (some .int))).type?
    (fun _ => some (.scalar .bool)) = some .int := by decide

/-- No cell has an index that is not an integer. -/
example : (Expression.cell "a" (.unary .not (.literal "0" none))).type?
    (fun _ => some (.array .real)) = none := by decide

end PulseTimeline
