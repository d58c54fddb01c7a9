import Mathlib.Algebra.Ring.Int.Defs
import Mathlib.Algebra.Ring.Nat
import PulseTimeline.Expression.Calculate

set_option autoImplicit false

/-! # Arithmetic of integers

Integers and truth values stand for integers, a truth value for zero or one. On such operands the
arithmetic operators compute what they compute on the integers, reduced to sixty-four bits, and the
comparisons compare the integers. What fails is a division by zero, a shift by an amount out of
range and a shift that has to do with a truth value, and nothing else. -/

namespace PulseTimeline

/-! ## Operands -/

/-- The operand stands for the integer. A double stands for none. -/
inductive Value.StandsFor : Value → Int → Prop where
  | int (n : Int64) : StandsFor (.int n) n.toInt
  | bool (b : Bool) : StandsFor (.bool b) (if b then 1 else 0)

variable {left right : Value} {l r : Int}

theorem Value.StandsFor.toInt_eq {v : Value} {n : Int} (h : v.StandsFor n) :
    v.toInt.toInt = n := by
  cases h with
  | int n => rfl
  | bool b => cases b <;> rfl

theorem Value.StandsFor.toInt_eq_zero_iff {v : Value} {n : Int} (h : v.StandsFor n) :
    v.toInt = 0 ↔ n = 0 := by
  rw [← Int64.toInt_inj, h.toInt_eq, Int64.toInt_zero]

theorem Promoted.ofValues_of_standsFor (hl : left.StandsFor l) (hr : right.StandsFor r) :
    ofValues left right = .int left.toInt right.toInt := by
  cases hl <;> cases hr <;> rfl

namespace BinaryOperator

/-! ## Shifts of sixty-four bits -/

section Shifts

variable (n : Int64) {amount : Int64} (hlow : 0 ≤ amount.toInt) (hhigh : amount.toInt < 64)
include hlow hhigh

/-- An amount that is in range is used as it stands. -/
theorem toNat_smod_amount : (amount.toBitVec.smod 64).toNat = amount.toInt.toNat := by
  have hsame : (amount.toBitVec.smod 64).toInt = amount.toInt := by
    have hdivisor : (64 : BitVec 64).toInt = 64 := rfl
    rw [BitVec.toInt_smod, hdivisor, Int64.toInt_toBitVec, Int.fmod_eq_emod_of_nonneg _ (by decide),
      Int.emod_eq_of_lt hlow hhigh]
  have hnat := BitVec.toInt_eq_toNat_cond (amount.toBitVec.smod 64)
  rw [hsame] at hnat
  split at hnat <;> omega

theorem toInt_shiftLeft :
    (n <<< amount).toInt = (n.toInt * 2 ^ amount.toInt.toNat).bmod (2 ^ 64) := by
  have hbits : (n <<< amount).toBitVec = n.toBitVec <<< amount.toInt.toNat := by
    rw [← toNat_smod_amount hlow hhigh]
    rfl
  have hnumber : n.toInt = (n.toBitVec.toNat : Int).bmod (2 ^ 64) :=
    BitVec.toInt_eq_toNat_bmod n.toBitVec
  rw [← Int64.toInt_toBitVec, hbits, BitVec.toInt_shiftLeft, hnumber, Int.bmod_mul_bmod,
    Nat.shiftLeft_eq, Int.natCast_mul, Int.natCast_pow]
  rfl

theorem toInt_shiftRight : (n >>> amount).toInt = n.toInt.fdiv (2 ^ amount.toInt.toNat) := by
  have hbits : (n >>> amount).toBitVec = n.toBitVec.sshiftRight amount.toInt.toNat := by
    rw [← toNat_smod_amount hlow hhigh]
    rfl
  have hpositive : (0 : Int) ≤ 2 ^ amount.toInt.toNat := Int.le_of_lt (Int.pow_pos (by decide))
  rw [← Int64.toInt_toBitVec, hbits, BitVec.toInt_sshiftRight, Int.shiftRight_eq_div_pow,
    Int.natCast_pow, Int.fdiv_eq_ediv_of_nonneg _ hpositive]
  rfl

end Shifts

/-! ## Families of operators -/

variable {operator : BinaryOperator} {error : OperatorError}

theorem arithmetic_of_standsFor (operator : BinaryOperator) (onInt : Int64 → Int64 → Int64)
    (onReal : Float → Float → Float) (divides : Bool) (hl : left.StandsFor l)
    (hr : right.StandsFor r) :
    arithmetic operator onInt onReal divides left right
      = if divides = true ∧ r = 0 then .error (.divisionByZero operator)
        else .ok (.int (onInt left.toInt right.toInt)) := by
  simp only [arithmetic, Promoted.ofValues_of_standsFor hl hr, Bool.and_eq_true, beq_iff_eq,
    hr.toInt_eq_zero_iff]

theorem arithmetic_eq_ok (operator : BinaryOperator) (onInt : Int64 → Int64 → Int64)
    (onReal : Float → Float → Float) (divides : Bool) (hdivisor : divides = true → r ≠ 0)
    (hl : left.StandsFor l) (hr : right.StandsFor r) :
    arithmetic operator onInt onReal divides left right
      = .ok (.int (onInt left.toInt right.toInt)) := by
  rw [arithmetic_of_standsFor operator onInt onReal divides hl hr]
  exact if_neg fun hzero => hdivisor hzero.1 hzero.2

theorem comparison_of_standsFor (onInt : Int64 → Int64 → Bool) (onReal : Float → Float → Bool)
    (hl : left.StandsFor l) (hr : right.StandsFor r) :
    comparison onInt onReal left right = .bool (onInt left.toInt right.toInt) := by
  rw [comparison, Promoted.ofValues_of_standsFor hl hr]

theorem bitwise_ne_error (onBool : Bool → Bool → Bool) (onInt : Int64 → Int64 → Int64)
    (hl : left.StandsFor l) (hr : right.StandsFor r) :
    bitwise operator onBool onInt left right ≠ .error error := by
  cases hl <;> cases hr <;> nofun

/-- How a shift fails on integers and truth values: an integer is shifted by an amount out of range,
    or one of the operands is a truth value. -/
inductive FailsToShift (operator : BinaryOperator) : Value → Value → OperatorError → Prop where
  | amount {n amount : Int64} (h : ¬(0 ≤ amount.toInt ∧ amount.toInt < 64)) :
    FailsToShift operator (.int n) (.int amount) (.shiftOutOfRange amount)
  | operands {left right : Value} (h : left.type = .bool ∨ right.type = .bool) :
    FailsToShift operator left right (.invalidOperands operator left.type right.type)

theorem shift_of_integers (onInt : Int64 → Int64 → Int64) (n amount : Int64) :
    shift operator onInt (.int n) (.int amount)
      = if 0 ≤ amount.toInt ∧ amount.toInt < 64 then .ok (.int (onInt n amount))
        else .error (.shiftOutOfRange amount) := by
  simp only [shift, Bool.and_eq_true, decide_eq_true_eq, Int64.le_iff_toInt_le,
    Int64.lt_iff_toInt_lt]
  rfl

theorem shift_of_bool (onInt : Int64 → Int64 → Int64) (h : left.type = .bool ∨ right.type = .bool) :
    shift operator onInt left right
      = .error (.invalidOperands operator left.type right.type) := by
  cases left with
  | int n => cases right with
    | int m => exact absurd h (by simp [Value.type])
    | real x | bool b => rfl
  | real x | bool b => rfl

theorem shift_eq_error_iff (onInt : Int64 → Int64 → Int64) (hl : left.StandsFor l)
    (hr : right.StandsFor r) :
    shift operator onInt left right = .error error ↔ FailsToShift operator left right error := by
  constructor
  · intro h
    cases hl with
    | bool b =>
        rw [shift_of_bool onInt (Or.inl rfl)] at h
        cases h
        exact .operands (Or.inl rfl)
    | int n => cases hr with
      | bool b =>
          rw [shift_of_bool onInt (Or.inr rfl)] at h
          cases h
          exact .operands (Or.inr rfl)
      | int amount =>
          rw [shift_of_integers] at h
          split at h
          · cases h
          · next hrange =>
              cases h
              exact .amount hrange
  · intro h
    cases h with
    | amount h => rw [shift_of_integers, if_neg h]
    | operands h => exact shift_of_bool onInt h

/-! ## Exactness -/

/-- The operator gives an integer reduced to sixty-four bits. -/
def Gives (operator : BinaryOperator) (left right : Value) (n : Int) : Prop :=
  ∃ result : Int64, operator.calculate left right = .ok (.int result)
    ∧ result.toInt = n.bmod (2 ^ 64)

/-- The operator gives the truth of a statement. -/
def Decides (operator : BinaryOperator) (left right : Value) (statement : Prop) : Prop :=
  ∃ result : Bool, operator.calculate left right = .ok (.bool result)
    ∧ (result = true ↔ statement)

/-- How an operator fails on operands of which the second one stands for `r`. -/
def Fails (left right : Value) (r : Int) (error : OperatorError) : BinaryOperator → Prop
  | divide => r = 0 ∧ error = .divisionByZero divide
  | modulo => r = 0 ∧ error = .divisionByZero modulo
  | shiftLeft => FailsToShift shiftLeft left right error
  | shiftRight => FailsToShift shiftRight left right error
  | _ => False

theorem calculate_eq_error_iff (hl : left.StandsFor l) (hr : right.StandsFor r) :
    operator.calculate left right = .error error ↔ Fails left right r error operator := by
  cases operator with
  | add | subtract | multiply | divide | modulo =>
      rw [calculate, arithmetic_of_standsFor _ _ _ _ hl hr]
      by_cases hzero : r = 0 <;> simp [Fails, hzero, eq_comm]
  | equal | notEqual | lessThan | lessThanOrEqual | greaterThan | greaterThanOrEqual | and | or =>
      exact iff_of_false nofun id
  | bitwiseAnd | bitwiseOr | bitwiseXor => exact iff_of_false (bitwise_ne_error _ _ hl hr) id
  | shiftLeft | shiftRight => exact shift_eq_error_iff _ hl hr

theorem gives_results (hl : left.StandsFor l) (hr : right.StandsFor r) :
    add.Gives left right (l + r) ∧ subtract.Gives left right (l - r)
      ∧ multiply.Gives left right (l * r) := by
  refine ⟨⟨_, arithmetic_eq_ok _ _ _ false nofun hl hr, ?_⟩,
    ⟨_, arithmetic_eq_ok _ _ _ false nofun hl hr, ?_⟩,
    ⟨_, arithmetic_eq_ok _ _ _ false nofun hl hr, ?_⟩⟩
  · rw [Int64.toInt_add, hl.toInt_eq, hr.toInt_eq]
  · rw [Int64.toInt_sub, hl.toInt_eq, hr.toInt_eq]
  · rw [Int64.toInt_mul, hl.toInt_eq, hr.toInt_eq]

/-- The results of a division: the quotient is cut toward zero, the remainder has the sign of the
    dividend, and the operators make the dividend of both again. -/
structure DividesInto (left right : Value) (l r : Int) (quotient remainder : Int64) : Prop where
  divided : divide.calculate left right = .ok (.int quotient)
  remains : modulo.calculate left right = .ok (.int remainder)
  quotient_eq : quotient.toInt = (l.tdiv r).bmod (2 ^ 64)
  remainder_eq : remainder.toInt = l.tmod r
  sign : (0 ≤ l → 0 ≤ remainder.toInt) ∧ (l ≤ 0 → remainder.toInt ≤ 0)
  restored : ∃ product sum : Int64, multiply.calculate (.int quotient) right = .ok (.int product)
    ∧ add.calculate (.int product) (.int remainder) = .ok (.int sum) ∧ sum.toInt = l

theorem dividesInto (hl : left.StandsFor l) (hr : right.StandsFor r) (hdivisor : r ≠ 0) :
    DividesInto left right l r (left.toInt / right.toInt) (left.toInt % right.toInt) := by
  have hquotient : (left.toInt / right.toInt).toInt = (l.tdiv r).bmod (2 ^ 64) := by
    rw [Int64.toInt_div, hl.toInt_eq, hr.toInt_eq]
  have hremainder : (left.toInt % right.toInt).toInt = l.tmod r := by
    rw [Int64.toInt_mod, hl.toInt_eq, hr.toInt_eq]
  refine ⟨arithmetic_eq_ok _ _ _ true (fun _ => hdivisor) hl hr,
    arithmetic_eq_ok _ _ _ true (fun _ => hdivisor) hl hr, hquotient, hremainder, ⟨?_, ?_⟩, ?_⟩
  · rw [hremainder]
    exact Int.tmod_nonneg r
  · intro hnegative
    have hopposite := Int.tmod_nonneg r (Int.neg_nonneg.2 hnegative)
    rw [Int.neg_tmod] at hopposite
    rw [hremainder]
    omega
  · let quotient := left.toInt / right.toInt
    let remainder := left.toInt % right.toInt
    have hproduct : multiply.calculate (.int quotient) right
        = .ok (.int (quotient * right.toInt)) :=
      arithmetic_eq_ok multiply (· * ·) (· * ·) false nofun (.int quotient) hr
    have hsum : add.calculate (.int (quotient * right.toInt)) (.int remainder)
        = .ok (.int (quotient * right.toInt + remainder)) :=
      arithmetic_eq_ok add (· + ·) (· + ·) false nofun (.int _) (.int remainder)
    refine ⟨_, _, hproduct, hsum, ?_⟩
    -- The reductions on the way do not show in the sum, and the dividend is in range.
    have hrange : l.bmod (2 ^ 64) = l := by
      rw [← hl.toInt_eq]
      exact Int64.toInt_bmod _
    rw [Int64.toInt_add, Int64.toInt_mul, hquotient, hremainder, hr.toInt_eq, Int.bmod_mul_bmod,
      Int.bmod_add_bmod, Int.tdiv_mul_add_tmod, hrange]

theorem decides_of_comparison {onInt : Int64 → Int64 → Bool} {onReal : Float → Float → Bool}
    {statement : Prop}
    (hcalculate : operator.calculate left right = .ok (comparison onInt onReal left right))
    (hl : left.StandsFor l) (hr : right.StandsFor r)
    (h : onInt left.toInt right.toInt = true ↔ statement) :
    operator.Decides left right statement :=
  ⟨_, by rw [hcalculate, comparison_of_standsFor onInt onReal hl hr], h⟩

theorem decides_order (hl : left.StandsFor l) (hr : right.StandsFor r) :
    equal.Decides left right (l = r) ∧ notEqual.Decides left right (l ≠ r)
      ∧ lessThan.Decides left right (l < r) ∧ lessThanOrEqual.Decides left right (l ≤ r)
      ∧ greaterThan.Decides left right (l > r) ∧ greaterThanOrEqual.Decides left right (l ≥ r) := by
  refine ⟨decides_of_comparison rfl hl hr ?_, decides_of_comparison rfl hl hr ?_,
    decides_of_comparison rfl hl hr ?_, decides_of_comparison rfl hl hr ?_,
    decides_of_comparison rfl hl hr ?_, decides_of_comparison rfl hl hr ?_⟩
  · rw [beq_iff_eq, ← Int64.toInt_inj, hl.toInt_eq, hr.toInt_eq]
  · rw [bne_iff_ne, Ne, ← Int64.toInt_inj, hl.toInt_eq, hr.toInt_eq]
  · rw [decide_eq_true_eq, Int64.lt_iff_toInt_lt, hl.toInt_eq, hr.toInt_eq]
  · rw [decide_eq_true_eq, Int64.le_iff_toInt_le, hl.toInt_eq, hr.toInt_eq]
  · rw [decide_eq_true_eq, gt_iff_lt, Int64.lt_iff_toInt_lt, hl.toInt_eq, hr.toInt_eq]
  · rw [decide_eq_true_eq, ge_iff_le, Int64.le_iff_toInt_le, hl.toInt_eq, hr.toInt_eq]

theorem shifts_give (n : Int64) {amount : Int64} (hlow : 0 ≤ amount.toInt)
    (hhigh : amount.toInt < 64) :
    shiftLeft.Gives (.int n) (.int amount) (n.toInt * 2 ^ amount.toInt.toNat)
      ∧ ∃ result : Int64, shiftRight.calculate (.int n) (.int amount) = .ok (.int result)
        ∧ result.toInt = n.toInt.fdiv (2 ^ amount.toInt.toNat) := by
  refine ⟨⟨_, ?_, toInt_shiftLeft n hlow hhigh⟩, _, ?_, toInt_shiftRight n hlow hhigh⟩
  · rw [calculate, shift_of_integers, if_pos ⟨hlow, hhigh⟩]
  · rw [calculate, shift_of_integers, if_pos ⟨hlow, hhigh⟩]

/-- **Integer operators are exact.** On operands that stand for integers, sums, differences and
    products are those of the integers, reduced to sixty-four bits. Unless the divisor is zero, the
    quotient is cut toward zero and reduced, the remainder has the sign of the dividend, and both
    make the dividend again. Comparisons are those of the integers. An integer that is shifted by an
    amount from zero to sixty-three is multiplied by a power of two and reduced, or divided by it
    and rounded down. Operators fail for a zero divisor, for any other amount and for a truth value
    in a shift, and in no other way. -/
theorem integer_operators_are_exact (hl : left.StandsFor l) (hr : right.StandsFor r) :
    (add.Gives left right (l + r) ∧ subtract.Gives left right (l - r)
      ∧ multiply.Gives left right (l * r))
    ∧ (r ≠ 0 → ∃ quotient remainder, DividesInto left right l r quotient remainder)
    ∧ (equal.Decides left right (l = r) ∧ notEqual.Decides left right (l ≠ r)
      ∧ lessThan.Decides left right (l < r) ∧ lessThanOrEqual.Decides left right (l ≤ r)
      ∧ greaterThan.Decides left right (l > r) ∧ greaterThanOrEqual.Decides left right (l ≥ r))
    ∧ (left.type = .int → right.type = .int → 0 ≤ r → r < 64 →
      shiftLeft.Gives left right (l * 2 ^ r.toNat)
        ∧ ∃ result : Int64, shiftRight.calculate left right = .ok (.int result)
          ∧ result.toInt = l.fdiv (2 ^ r.toNat))
    ∧ ∀ operator error, operator.calculate left right = .error error
      ↔ Fails left right r error operator := by
  refine ⟨gives_results hl hr, fun hdivisor => ⟨_, _, dividesInto hl hr hdivisor⟩,
    decides_order hl hr, fun hleft hright hlow hhigh => ?_,
    fun operator error => calculate_eq_error_iff hl hr⟩
  cases hl with
  | bool b => cases hleft
  | int n => cases hr with
    | bool b => cases hright
    | int amount => exact shifts_give n hlow hhigh

/-- The only quotient that is out of range is reduced to the dividend again. A sum with a truth
    value is reduced as well. The farthest shift to the right leaves the sign; one place more is
    refused, and so is a shift by a truth value. -/
theorem integers_at_the_limits :
    divide.calculate (.int Int64.minValue) (.int (-1)) = .ok (.int Int64.minValue)
      ∧ modulo.calculate (.int Int64.minValue) (.int (-1)) = .ok (.int 0)
      ∧ add.calculate (.int Int64.maxValue) (.bool true) = .ok (.int Int64.minValue)
      ∧ greaterThan.calculate (.int Int64.maxValue) (.bool true) = .ok (.bool true)
      ∧ shiftRight.calculate (.int Int64.minValue) (.int 63) = .ok (.int (-1))
      ∧ shiftLeft.calculate (.int Int64.minValue) (.int 64) = .error (.shiftOutOfRange 64)
      ∧ shiftLeft.calculate (.int Int64.maxValue) (.bool true)
        = .error (.invalidOperands shiftLeft .int .bool) := by
  obtain ⟨-, hdivision, -⟩ := integer_operators_are_exact (.int Int64.minValue) (.int (-1))
  obtain ⟨⟨⟨sum, hsum, hreduced⟩, -⟩, -, horder, -, hmixed⟩ :=
    integer_operators_are_exact (.int Int64.maxValue) (.bool true)
  obtain ⟨-, -, -, hshift, -⟩ := integer_operators_are_exact (.int Int64.minValue) (.int 63)
  obtain ⟨-, -, -, -, hfar⟩ := integer_operators_are_exact (.int Int64.minValue) (.int 64)
  obtain ⟨quotient, remainder, hdivides⟩ := hdivision (by decide)
  obtain ⟨-, shifted, hshifted, hfloor⟩ := hshift rfl rfl (by decide) (by decide)
  obtain ⟨-, -, -, -, ⟨greater, hgreater, hholds⟩, -⟩ := horder
  cases Int64.toInt.inj (hdivides.quotient_eq.trans
    (show _ = Int64.minValue.toInt from by decide))
  cases Int64.toInt.inj (hdivides.remainder_eq.trans (show _ = (0 : Int64).toInt from by decide))
  cases Int64.toInt.inj (hreduced.trans (show _ = Int64.minValue.toInt from by decide))
  cases Int64.toInt.inj (hfloor.trans (show _ = (-1 : Int64).toInt from by decide))
  cases hholds.2 (by decide)
  refine ⟨hdivides.divided, hdivides.remains, hsum, hgreater, hshifted, ?_, ?_⟩
  · exact (hfar shiftLeft _).2 (.amount (by decide))
  · exact (hmixed shiftLeft _).2 (.operands (Or.inr rfl))

end BinaryOperator

end PulseTimeline
