import PulseTimeline.Proofs.Decimal.Bits

set_option autoImplicit false

/-! # Rounding quotients to doubles

A quotient of natural numbers is rounded in two steps. `exponentOf` finds the exponent at which it
has a significand of fifty-three bits, without a look at the digits beyond the first of either
number; `divideToEven` rounds the significand. Shifts on numerators and denominators are powers of
two on quotients, which is where the arithmetic is done. -/

namespace PulseTimeline.Binary64

/-! ## Exponents -/

theorem shift_pos {den : Nat} (hden : 0 < den) (n : Nat) : 0 < den <<< n := by
  rw [Nat.shiftLeft_eq]
  positivity

theorem two_zpow_add (q k : Int) : (2 : ℚ) ^ (q + k) = 2 ^ k * 2 ^ q := by
  rw [zpow_add₀ two_ne_zero, mul_comm]

/-- Shifting a numerator or a denominator divides a quotient by a power of two. -/
theorem shifted_div (num den : Nat) (q : Int) :
    ((num <<< (-q).toNat : Nat) : ℚ) / ((den <<< q.toNat : Nat) : ℚ) = num / den / 2 ^ q := by
  rw [Nat.shiftLeft_eq, Nat.shiftLeft_eq]
  push_cast
  obtain ⟨n, rfl | rfl⟩ := q.eq_nat_or_neg
  · simp [div_div]
  · simp [div_mul_eq_mul_div]

theorem mul_shift_le_iff {num den : Nat} (hden : 0 < den) (q : Int) (m : Nat) :
    m * (den <<< q.toNat) ≤ num <<< (-q).toNat ↔ (m : ℚ) * 2 ^ q ≤ num / den := by
  have hshift : (0 : ℚ) < ((den <<< q.toNat : Nat) : ℚ) := mod_cast shift_pos hden _
  rw [← le_div_iff₀ (by positivity), ← shifted_div, le_div_iff₀ hshift]
  exact_mod_cast Iff.rfl

/-- The first digits of two numbers leave two binary places to their quotient. -/
theorem quotient_bounds {num den : Nat} (hnum : 0 < num) (hden : 0 < den) :
    2 ^ ((num.log2 : Int) - den.log2 - 1) < (num / den : ℚ)
      ∧ (num / den : ℚ) < 2 ^ ((num.log2 : Int) - den.log2 + 1) := by
  have hnumLow : (2 : ℚ) ^ num.log2 ≤ num := mod_cast Nat.log2_self_le (Nat.ne_of_gt hnum)
  have hnumHigh : (num : ℚ) < 2 ^ (num.log2 + 1) := mod_cast Nat.lt_log2_self
  have hdenLow : (2 : ℚ) ^ den.log2 ≤ den := mod_cast Nat.log2_self_le (Nat.ne_of_gt hden)
  have hdenHigh : (den : ℚ) < 2 ^ (den.log2 + 1) := mod_cast Nat.lt_log2_self
  have hpos : (0 : ℚ) < den := mod_cast hden
  constructor
  · rw [lt_div_iff₀ hpos]
    calc (2 : ℚ) ^ ((num.log2 : Int) - den.log2 - 1) * den
        < 2 ^ ((num.log2 : Int) - den.log2 - 1) * 2 ^ (den.log2 + 1) := by gcongr
      _ = 2 ^ num.log2 := by
          rw [← zpow_natCast, ← zpow_natCast, ← zpow_add₀ two_ne_zero]
          congr 1
          push_cast
          ring
      _ ≤ num := hnumLow
  · rw [div_lt_iff₀ hpos]
    calc (num : ℚ) < 2 ^ (num.log2 + 1) := hnumHigh
      _ = 2 ^ ((num.log2 : Int) - den.log2 + 1) * 2 ^ den.log2 := by
          rw [← zpow_natCast, ← zpow_natCast, ← zpow_add₀ two_ne_zero]
          congr 1
          push_cast
          ring
      _ ≤ 2 ^ ((num.log2 : Int) - den.log2 + 1) * den := by gcongr

theorem exponentOf_eq_max {num den : Nat} (hnum : 0 < num) (hden : 0 < den) :
    ∃ e : Int, exponentOf num den = max e (-1074)
      ∧ 2 ^ (e + 52) ≤ (num / den : ℚ) ∧ (num / den : ℚ) < 2 ^ (e + 53) := by
  obtain ⟨hlow, hhigh⟩ := quotient_bounds hnum hden
  have hfits : ∀ guess : Int, (num <<< (-guess).toNat ≥ (den <<< guess.toNat) <<< 52)
      ↔ (2 : ℚ) ^ (guess + 52) ≤ num / den := by
    intro guess
    rw [Nat.shiftLeft_eq _ 52, mul_comm, ge_iff_le, mul_shift_le_iff hden, zpow_add₀ two_ne_zero,
      mul_comm]
    norm_num
  refine ⟨_, rfl, ?_⟩
  simp only [hfits]
  -- The guess is right, or too high by one.
  split
  · next h => exact ⟨h, hhigh.trans_eq (congrArg _ (by simp; ring))⟩
  · next h =>
      exact ⟨hlow.le.trans_eq' (congrArg _ (by simp; ring)),
        (not_le.1 h).trans_eq (congrArg _ (by ring))⟩

/-- The exponent is the one at which the significand has fifty-three bits, or the least of all where
    it would be less. -/
theorem exponentOf_eq {num den : Nat} (hnum : 0 < num) (hden : 0 < den) {q : Int} (hq : -1074 ≤ q)
    (hlow : q = -1074 ∨ 2 ^ (q + 52) ≤ (num / den : ℚ))
    (hhigh : (num / den : ℚ) < 2 ^ (q + 53)) : exponentOf num den = q := by
  obtain ⟨e, he, heLow, heHigh⟩ := exponentOf_eq_max hnum hden
  have hle : e ≤ q := by
    have hlt := (zpow_lt_zpow_iff_right₀ (one_lt_two : (1 : ℚ) < 2)).1 (heLow.trans_lt hhigh)
    omega
  rw [he]
  rcases hlow with rfl | hlow
  · exact max_eq_right hle
  · have hlt := (zpow_lt_zpow_iff_right₀ (one_lt_two : (1 : ℚ) < 2)).1 (hlow.trans_lt heHigh)
    omega

/-! ## Significands -/

theorem le_divideToEven (num den : Nat) : num / den ≤ divideToEven num den := by
  unfold divideToEven
  dsimp only
  split
  · exact Nat.le_refl _
  · split
    · exact Nat.le_refl _
    · exact Nat.le_succ _

/-- A quotient that is no further than a half from a number is rounded to it, at the very half if
    the number is even. -/
theorem divideToEven_eq {num den m : Nat} (hden : 0 < den) (hlow : 2 * m * den ≤ 2 * num + den)
    (hhigh : 2 * num ≤ 2 * m * den + den)
    (htie : 2 * m * den = 2 * num + den ∨ 2 * num = 2 * m * den + den → m % 2 = 0) :
    divideToEven num den = m := by
  obtain ⟨quotient, rest, hrest, rfl⟩ : ∃ quotient rest, rest < den ∧ num = den * quotient + rest :=
    ⟨num / den, num % den, Nat.mod_lt _ hden, (Nat.div_add_mod num den).symm⟩
  have hquotient : (den * quotient + rest) / den = quotient := by
    rw [Nat.mul_add_div hden, Nat.div_eq_of_lt hrest, Nat.add_zero]
  have hmod : (den * quotient + rest) % den = rest := by
    rw [Nat.mul_add_mod, Nat.mod_eq_of_lt hrest]
  unfold divideToEven
  rw [hquotient, hmod]
  have hle : quotient ≤ m := by
    by_contra hlt
    have := Nat.mul_le_mul_right den (show m + 1 ≤ quotient by omega)
    nlinarith
  have hge : m ≤ quotient + 1 := by
    by_contra hlt
    have := Nat.mul_le_mul_right den (show quotient + 2 ≤ m by omega)
    nlinarith
  dsimp only
  obtain rfl | rfl : m = quotient ∨ m = quotient + 1 := by omega
  · split
    · rfl
    · have heq : 2 * rest = den := by nlinarith
      have := htie (Or.inr (by rw [← heq]; ring))
      simp [heq, this]
  · have hhalf : den ≤ 2 * rest := by nlinarith
    rw [if_neg (by omega), if_neg]
    simp only [Bool.and_eq_true, decide_eq_true_eq, not_and]
    intro heq hodd
    have := htie (Or.inl (by rw [← heq]; ring))
    omega

/-- The same with the quotient at an exponent. -/
theorem divideToEven_shift_eq {num den m : Nat} (hden : 0 < den) (q : Int)
    (hlow : (m - 1 / 2 : ℚ) * 2 ^ q ≤ num / den) (hhigh : (num / den : ℚ) ≤ (m + 1 / 2) * 2 ^ q)
    (hends : m % 2 = 1 → (num / den : ℚ) ≠ (m - 1 / 2) * 2 ^ q
      ∧ (num / den : ℚ) ≠ (m + 1 / 2) * 2 ^ q) :
    divideToEven (num <<< (-q).toNat) (den <<< q.toNat) = m := by
  have hpos : (0 : ℚ) < 2 ^ q := by positivity
  have hshift := shifted_div num den q
  have hden' := shift_pos hden q.toNat
  generalize num <<< (-q).toNat = a at *
  generalize den <<< q.toNat = b at *
  have hb : (0 : ℚ) < b := mod_cast hden'
  have hx : (num / den : ℚ) = a / b * 2 ^ q := by
    rw [hshift, div_mul_cancel₀ _ hpos.ne']
  rw [hx] at hlow hhigh hends
  have hlow := le_of_mul_le_mul_right hlow hpos
  have hhigh := le_of_mul_le_mul_right hhigh hpos
  rw [le_div_iff₀ hb] at hlow
  rw [div_le_iff₀ hb] at hhigh
  refine divideToEven_eq hden' ?_ ?_ fun htie => ?_
  · rw [← @Nat.cast_le ℚ]
    push_cast
    linarith
  · rw [← @Nat.cast_le ℚ]
    push_cast
    linarith
  · by_contra hodd
    obtain ⟨hne, hne'⟩ := hends (by omega)
    rcases htie with heq | heq
    · refine hne (congrArg (· * _) ?_)
      rw [div_eq_iff hb.ne']
      have : (2 * m * b : ℚ) = 2 * a + b := mod_cast heq
      linarith
    · refine hne' (congrArg (· * _) ?_)
      rw [div_eq_iff hb.ne']
      have : (2 * a : ℚ) = 2 * m * b + b := mod_cast heq
      linarith

/-! ## Codes of quotients -/

/-- The code of the double nearest to `num / den`. -/
def nearestCode (num den : Nat) : Nat :=
  if num = 0 then 0
  else
    let q := exponentOf num den
    min ((q + 1074).toNat * 2 ^ 52 + divideToEven (num <<< (-q).toNat) (den <<< q.toNat))
      infinityCode

theorem nearestCode_le (num den : Nat) : nearestCode num den ≤ infinityCode := by
  unfold nearestCode
  split
  · exact Nat.zero_le _
  · exact min_le_right _ _

theorem nearest_eq_ofCode (negative : Bool) (num den : Nat) :
    nearest negative num den = ofCode negative (nearestCode num den) := by
  have hsign : (if negative then 1 <<< 63 else 0 : Nat) = signBit negative := rfl
  unfold nearest nearestCode
  simp only [hsign, Nat.shiftLeft_eq _ 52]
  split <;> rfl

variable {num den m : Nat} {q : Int}

/-- The exponent and the significand of a quotient make up its code. -/
theorem nearestCode_eq_of_parts (hnum : 0 < num) (hexponent : exponentOf num den = q)
    (hsignificand : divideToEven (num <<< (-q).toNat) (den <<< q.toNat) = m)
    (hcode : (q + 1074).toNat * 2 ^ 52 + m ≤ infinityCode) :
    nearestCode num den = (q + 1074).toNat * 2 ^ 52 + m := by
  rw [nearestCode, if_neg (Nat.ne_of_gt hnum), hexponent]
  dsimp only
  rw [hsignificand, min_eq_left hcode]

theorem Canonical.code_le (h : Canonical m q) :
    (q + 1074).toNat * 2 ^ 52 + m ≤ infinityCode := by
  have hinfinity : infinityCode = 2047 * 2 ^ 52 := rfl
  have hlt := h.lt
  have hgreatest := h.greatest
  omega

/-- What is hardly less than a power of two has another bit in its significand, and is rounded up to
    the power of two by a carry into the exponent. -/
theorem nearestCode_of_carry (h : Canonical (2 ^ 52) q) (hq : -1074 < q) (hnum : 0 < num)
    (hden : 0 < den) (hlow : (2 ^ 52 - 1 / 4 : ℚ) * 2 ^ q ≤ num / den)
    (hhigh : (num / den : ℚ) < 2 ^ (q + 52)) :
    nearestCode num den = (q + 1074).toNat * 2 ^ 52 + 2 ^ 52 := by
  have hpos : (0 : ℚ) < 2 ^ (q - 1) := by positivity
  have hhalf : (2 : ℚ) ^ q = 2 * 2 ^ (q - 1) := by
    rw [zpow_sub_one₀ two_ne_zero]
    ring
  rw [hhalf] at hlow
  rw [show q + 52 = q - 1 + 53 by ring] at hhigh
  have hfirst : (2 : ℚ) ^ (q - 1 + 52) ≤ num / den := by
    refine le_trans ?_ hlow
    rw [two_zpow_add]
    norm_num
    linarith
  have hexponent : exponentOf num den = q - 1 :=
    exponentOf_eq hnum hden (by omega) (Or.inr hfirst) hhigh
  have hsignificand : divideToEven (num <<< (-(q - 1)).toNat) (den <<< (q - 1).toNat)
      = 2 ^ 53 := by
    refine divideToEven_shift_eq hden (q - 1) ?_ ?_ fun hodd => ?_
    · push_cast
      linarith
    · refine hhigh.le.trans ?_
      rw [two_zpow_add]
      norm_num
      linarith
    · norm_num at hodd
  have hcarry : (q - 1 + 1074).toNat * 2 ^ 52 + 2 ^ 53 = (q + 1074).toNat * 2 ^ 52 + 2 ^ 52 := by
    omega
  rw [nearestCode_eq_of_parts hnum hexponent hsignificand (hcarry.trans_le h.code_le), hcarry]

/-- What is no further from a finite double than half a step is rounded to it. The step to the next
    double below is half as large at a power of two. -/
theorem nearestCode_eq (h : Canonical m q) (hnum : 0 < num) (hden : 0 < den)
    (hlow : (m - 1 / 2 : ℚ) * 2 ^ q ≤ num / den) (hhigh : (num / den : ℚ) ≤ (m + 1 / 2) * 2 ^ q)
    (hends : m % 2 = 1 → (num / den : ℚ) ≠ (m - 1 / 2) * 2 ^ q
      ∧ (num / den : ℚ) ≠ (m + 1 / 2) * 2 ^ q)
    (hbelow : m = 2 ^ 52 → -1074 < q → (m - 1 / 4 : ℚ) * 2 ^ q ≤ num / den) :
    nearestCode num den = (q + 1074).toNat * 2 ^ 52 + m := by
  have hpos : (0 : ℚ) < 2 ^ q := by positivity
  by_cases hfull : q = -1074 ∨ 2 ^ (q + 52) ≤ (num / den : ℚ)
  · have hm : (m : ℚ) + 1 ≤ 2 ^ 53 := mod_cast h.lt
    have hlt : (num / den : ℚ) < 2 ^ (q + 53) := by
      refine hhigh.trans_lt ?_
      rw [two_zpow_add]
      refine mul_lt_mul_of_pos_right ?_ hpos
      norm_num at hm ⊢
      linarith
    exact nearestCode_eq_of_parts hnum (exponentOf_eq hnum hden h.least hfull hlt)
      (divideToEven_shift_eq hden q hlow hhigh hends) h.code_le
  · obtain ⟨hleast, hshort⟩ := not_or.1 hfull
    have hq : -1074 < q := lt_of_le_of_ne h.least (Ne.symm hleast)
    have hm : m = 2 ^ 52 := by
      rw [two_zpow_add, not_le] at hshort
      have hhalf : (m - 1 / 2 : ℚ) < 2 ^ (52 : Int) :=
        lt_of_mul_lt_mul_right (hlow.trans_lt hshort) hpos.le
      have hlt : (m : ℚ) < 2 ^ 52 + 1 := by
        norm_num at hhalf
        linarith
      have hle : m < 2 ^ 52 + 1 := mod_cast hlt
      have hge := h.normal.resolve_left hleast
      omega
    have hquarter := hbelow hm hq
    subst hm
    exact nearestCode_of_carry h hq hnum hden (mod_cast hquarter) (not_le.1 hshort)

/-! ## Integers beyond sixty-four bits -/

/-- The code of two to the power of sixty-three. -/
theorem le_nearestCode {n : Nat} (h : 2 ^ 63 ≤ n) : 1086 * 2 ^ 52 ≤ nearestCode n 1 := by
  have hpos : 0 < n := by omega
  obtain ⟨q, hq, hlow, hhigh⟩ := exponentOf_eq_max hpos Nat.one_pos
  have hn : (2 : ℚ) ^ (63 : Int) ≤ (n / (1 : Nat) : ℚ) := by
    rw [Nat.cast_one, div_one]
    exact_mod_cast h
  have hexponent : 11 ≤ q := by
    have hlt := (zpow_lt_zpow_iff_right₀ (one_lt_two : (1 : ℚ) < 2)).1 (hn.trans_lt hhigh)
    omega
  have hsignificand : 2 ^ 52 ≤ divideToEven (n <<< (-q).toNat) (1 <<< q.toNat) := by
    refine Nat.le_trans ?_ (le_divideToEven _ _)
    rw [Nat.le_div_iff_mul_le (shift_pos Nat.one_pos _), mul_shift_le_iff Nat.one_pos]
    refine hlow.trans_eq' ?_
    rw [two_zpow_add]
    norm_num
  rw [nearestCode, if_neg (Nat.ne_of_gt hpos), hq, max_eq_left (by omega)]
  refine le_min ?_ (by decide)
  omega

/-- What is at least two to the power of sixty-three is so with its places behind the point cut
    off. -/
theorem truncate_ofCode (negative : Bool) {code : Nat} (hlow : 1086 * 2 ^ 52 ≤ code)
    (hhigh : code ≤ infinityCode) :
    ∃ magnitude : Nat, 2 ^ 63 ≤ magnitude
      ∧ (ofFloat (ofCode negative code)).truncate (Int.ofNat (1 <<< 63))
        = if negative then -Int.ofNat magnitude else Int.ofNat magnitude := by
  rw [ofFloat_ofCode negative hhigh]
  by_cases hinf : code = infinityCode
  · exact ⟨2 ^ 63, Nat.le_refl _, by rw [if_pos hinf]; rfl⟩
  · rw [if_neg hinf, if_neg (by omega)]
    refine ⟨(2 ^ 52 + code % 2 ^ 52) <<< (code / 2 ^ 52 - 1075), ?_, ?_⟩
    · -- The significand has fifty-three bits and is shifted by eleven of them at least.
      rw [Nat.shiftLeft_eq]
      calc 2 ^ 63 = 2 ^ 52 * 2 ^ 11 := by norm_num
        _ ≤ (2 ^ 52 + code % 2 ^ 52) * 2 ^ (code / 2 ^ 52 - 1075) :=
            Nat.mul_le_mul (by omega) (Nat.pow_le_pow_right (by norm_num) (by omega))
    · have hup : (Int.ofNat (code / 2 ^ 52) - 1075).toNat = code / 2 ^ 52 - 1075 := by
        simp only [Int.ofNat_eq_natCast]
        omega
      have hdown : (-(Int.ofNat (code / 2 ^ 52) - 1075)).toNat = 0 := by
        simp only [Int.ofNat_eq_natCast]
        omega
      rw [truncate, hup, hdown, Nat.shiftRight_zero]

end PulseTimeline.Binary64
