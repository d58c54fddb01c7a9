import PulseTimeline.Proofs.Decimal.Reading

set_option autoImplicit false

/-! # Integer literals

A text that spells an integer of at most sixty-four bits is read as that integer. The text of a
larger one is read as a double, which is then cut to the nearest integer of sixty-four bits. No such
text is refused: all of them are read as the nearest integer that there is. -/

namespace PulseTimeline

namespace Decimal

/-! ## Large integers -/

variable {text : List Char} {n : Int}

/-- Whether an integer has sixty-four bits, one of them for its sign. -/
def FitsInt64 (n : Int) : Prop := -2 ^ 63 ≤ n ∧ n < 2 ^ 63

theorem fitsInt64_iff :
    (decide (Int64.minValue.toInt ≤ n) && decide (n ≤ Int64.maxValue.toInt)) = true
      ↔ FitsInt64 n := by
  rw [Bool.and_eq_true, decide_eq_true_eq, decide_eq_true_eq, Int64.toInt_minValue,
    Int64.toInt_maxValue, Int.le_sub_one_iff]
  rfl

theorem Spells.readInt64?_of_fits (h : Spells text n) (hfits : FitsInt64 n) :
    readInt64? text = some (Int64.ofInt n) := by
  rw [readInt64?, h.readInteger?, Option.bind_eq_bind, Option.bind_some,
    if_pos (fitsInt64_iff.2 hfits)]

theorem Spells.readInt64?_of_not_fits (h : Spells text n) (hfits : ¬FitsInt64 n) :
    readInt64? text = none := by
  rw [readInt64?, h.readInteger?, Option.bind_eq_bind, Option.bind_some,
    if_neg (fun hrange => hfits (fitsInt64_iff.1 hrange))]

/-- A large integer is read as a double that is no less. -/
theorem exists_nearestDecimal_eq_ofCode (negative : Bool) {n : Nat} (h : 2 ^ 63 ≤ n) :
    ∃ code, 1086 * 2 ^ 52 ≤ code ∧ code ≤ Binary64.infinityCode
      ∧ nearestDecimal negative n 0 = Binary64.ofCode negative code := by
  have hzero : n ≠ 0 := by omega
  unfold nearestDecimal
  dsimp only
  rw [if_neg (by simp [hzero])]
  split
  · refine ⟨Binary64.infinityCode, by decide, Nat.le_refl _, ?_⟩
    cases negative <;> rfl
  · refine ⟨Binary64.nearestCode n 1, Binary64.le_nearestCode h, Binary64.nearestCode_le n 1, ?_⟩
    rw [← Binary64.nearest_eq_ofCode]
    exact congrArg (fun num => Binary64.nearest negative num 1) (Nat.mul_one n)

theorem Spells.exists_readFloat? (h : Spells text n) (hlarge : 2 ^ 63 ≤ n.natAbs) :
    ∃ code, 1086 * 2 ^ 52 ≤ code ∧ code ≤ Binary64.infinityCode
      ∧ readFloat? text = some (Binary64.ofCode (decide (n < 0)) code) := by
  obtain ⟨negative, digits, hsplit, hsome, hall, rfl⟩ := h.splitSign
  obtain ⟨c, rest, rfl⟩ := List.exists_cons_of_ne_nil hsome
  have hdigits : 2 ^ 63 ≤ natOfDigits (c :: rest) := by
    cases negative <;> simpa using hlarge
  obtain ⟨code, hlow, hhigh, hread⟩ := exists_nearestDecimal_eq_ofCode negative hdigits
  refine ⟨code, hlow, hhigh, ?_⟩
  have hmagnitude := readMagnitude?_whole negative hsome hall .absent
  rw [List.append_nil, hread] at hmagnitude
  rw [readFloat?_of_isDigit hsplit (hall c List.mem_cons_self), hmagnitude]
  -- An integer that large is not zero, so it shows its sign.
  congr 2
  cases negative with
  | false => simp
  | true =>
      have hpos : 0 < natOfDigits (c :: rest) := by omega
      simpa using hpos

end Decimal

/-! ## Literals -/

namespace Value

/-- A literal spells an integer, maybe with white space around it. -/
def SpellsInteger (literal : String) (n : Int) : Prop :=
  ∃ left text right, literal.toList = left ++ (text ++ right) ∧ Decimal.Spells text n
    ∧ (∀ c ∈ left, Text.isBlank c = true) ∧ ∀ c ∈ right, Text.isBlank c = true

theorem clampInt64_of_fits {n : Int} (h : Decimal.FitsInt64 n) :
    clampInt64 n = Int64.ofInt n := by
  rw [clampInt64, Int64.toInt_minValue, Int64.toInt_maxValue,
    min_eq_left (Int.le_sub_one_of_lt h.2), max_eq_right h.1]

theorem clampInt64_of_le {n : Int} (h : n ≤ -2 ^ 63) : clampInt64 n = Int64.minValue := by
  rw [← Int64.toInt_minValue] at h
  rw [clampInt64, max_eq_left ((min_le_left _ _).trans h), Int64.ofInt_toInt]

theorem clampInt64_of_ge {n : Int} (h : 2 ^ 63 ≤ n) : clampInt64 n = Int64.maxValue := by
  have hmax : Int64.maxValue.toInt ≤ n := by
    rw [Int64.toInt_maxValue]
    omega
  rw [clampInt64, min_eq_right hmax, max_eq_right (by decide), Int64.ofInt_toInt]

/-- The text of a large integer is read as a double, which is cut to the nearest integer. -/
theorem exists_ofTrimmed?_of_large {text : List Char} {n : Int} (h : Decimal.Spells text n)
    (hlarge : ¬Decimal.FitsInt64 n) :
    ∃ x, ofTrimmed? text = some (real x) ∧ (real x).toInt = clampInt64 n := by
  have hmagnitude : 2 ^ 63 ≤ n.natAbs := by
    rw [Decimal.FitsInt64] at hlarge
    omega
  obtain ⟨code, hlow, hhigh, hread⟩ := h.exists_readFloat? hmagnitude
  obtain ⟨magnitude, hbound, htruncate⟩ := Binary64.truncate_ofCode (decide (n < 0)) hlow hhigh
  refine ⟨Binary64.ofCode (decide (n < 0)) code, ?_, ?_⟩
  · rw [Decimal.ofTrimmed?_of_isNumberChar h.isNumberChar, h.readInt64?_of_not_fits hlarge, hread]
    rfl
  · rw [toInt, htruncate]
    simp only [decide_eq_true_eq, Int.ofNat_eq_natCast]
    split
    · rw [clampInt64_of_le (by omega), clampInt64_of_le (by omega)]
    · rw [clampInt64_of_ge (by omega), clampInt64_of_ge (by omega)]

/-- **Integer literals are clamped.** Every text that spells an integer is accepted as a literal of
    an integer, with any white space around it. It is read as the integer that it spells exactly if
    that has sixty-four bits; a smaller one is read as the least integer that there is, and a larger
    one as the greatest. -/
theorem integer_literals_are_clamped {literal : String} {n : Int} (h : SpellsInteger literal n) :
    ∃ value : Int64, ofLiteral literal (some .int) = .ok (int value)
      ∧ (value.toInt = n ↔ -2 ^ 63 ≤ n ∧ n < 2 ^ 63)
      ∧ (n < -2 ^ 63 → value = Int64.minValue)
      ∧ (2 ^ 63 ≤ n → value = Int64.maxValue) := by
  obtain ⟨left, text, right, hliteral, hspells, hleft, hright⟩ := h
  have htrim : Text.trim literal.toList = text := by
    rw [hliteral]
    exact Text.trim_surrounded hleft (fun c hc => (hspells.isNumberChar c hc).isBlank_eq_false)
      hright
  have hread : ofLiteral literal (some .int) = .ok (int (clampInt64 n)) := by
    by_cases hfits : Decimal.FitsInt64 n
    · rw [ofLiteral, htrim, Decimal.ofTrimmed?_of_isNumberChar hspells.isNumberChar,
        hspells.readInt64?_of_fits hfits, clampInt64_of_fits hfits]
      rfl
    · obtain ⟨x, hx, htoInt⟩ := exists_ofTrimmed?_of_large hspells hfits
      rw [ofLiteral, htrim, hx, ← htoInt]
      rfl
  refine ⟨clampInt64 n, hread, ⟨fun heq => ?_, fun hfits => ?_⟩, fun hlow => ?_, fun hhigh => ?_⟩
  · have hlow := Int64.le_toInt (clampInt64 n)
    have hhigh := Int64.toInt_lt (clampInt64 n)
    omega
  · rw [clampInt64_of_fits hfits, Int64.toInt_ofInt_of_le hfits.1 hfits.2]
  · exact clampInt64_of_le hlow.le
  · exact clampInt64_of_ge hhigh

/-- Leading zeros and white space do no harm at the limit. -/
theorem literal_of_least_integer :
    SpellsInteger "\t-009223372036854775808 " (-9223372036854775808)
      ∧ ofLiteral "\t-009223372036854775808 " (some .int) = .ok (int Int64.minValue) := by
  have hspells : SpellsInteger "\t-009223372036854775808 " (-9223372036854775808) :=
    ⟨['\t'], "-009223372036854775808".toList, [' '], by decide,
      @Decimal.Spells.minus "009223372036854775808".toList (by decide)
        (List.all_eq_true.1 (by decide)),
      List.all_eq_true.1 (by decide), List.all_eq_true.1 (by decide)⟩
  obtain ⟨value, hvalue, hexact, -, -⟩ := integer_literals_are_clamped hspells
  refine ⟨hspells, ?_⟩
  have hleast : value.toInt = Int64.minValue.toInt := hexact.2 (by decide)
  rw [hvalue, Int64.toInt_inj.1 hleast]

/-- The literal of the least positive integer that does not fit is accepted as another integer. -/
theorem overlong_literal_is_accepted :
    SpellsInteger "9223372036854775808" 9223372036854775808
      ∧ ∃ value : Int64, ofLiteral "9223372036854775808" (some .int) = .ok (int value)
        ∧ value.toInt = 9223372036854775807 := by
  refine ⟨⟨[], "9223372036854775808".toList, [], by decide,
    .unsigned (by decide) (List.all_eq_true.1 (by decide)), nofun, nofun⟩, 9223372036854775807, ?_,
    by decide⟩
  decide +kernel

end Value

end PulseTimeline
