import PulseTimeline.Decimal.Layout
import PulseTimeline.Proofs.Decimal.Reading
import PulseTimeline.Proofs.Decimal.Shortest

set_option autoImplicit false

/-! # Doubles are read back

The text of a double is read as that double, whatever the layout. Its digits are those of a decimal
in the interval of the double; where the point and the exponent stand does not change the number
that the text shows; and what lies in the interval is rounded to the double. -/

namespace PulseTimeline.Decimal

open Binary64 (Canonical)

/-! ## The nearest double -/

variable {m : Nat} {q : Int}

/-- The intervals of doubles lie well inside the range of exponents that are looked at closely. -/
theorem bounds_of_holds_around (h : Canonical m q) (hm : 0 < m) {x : ℚ}
    (hx : (Interval.around m q).Holds x) : 10 ^ (-400 : Int) < x ∧ x < 10 ^ (400 : Int) := by
  have hleastBits : (1 : ℚ) ≤ m := mod_cast hm
  have hgreatestBits : (m : ℚ) + 1 ≤ 2 ^ 53 := mod_cast h.lt
  obtain ⟨hlow, hhigh, -⟩ := hx
  rw [lower_around hm] at hlow
  rw [upper_around] at hhigh
  constructor
  · have hleast : (2 : ℚ) * 2 ^ 1074 < 10 ^ 400 :=
      mod_cast (by decide +kernel : 2 * 2 ^ 1074 < 10 ^ 400)
    refine lt_of_lt_of_le ?_ hlow
    calc (10 : ℚ) ^ (-400 : Int) = (10 ^ 400)⁻¹ := by rw [zpow_neg, zpow_ofNat]
      _ < (2 * 2 ^ 1074)⁻¹ := inv_strictAnti₀ (by positivity) hleast
      _ = 1 / 2 * 2 ^ (-1074 : Int) := by rw [zpow_neg, zpow_ofNat, mul_inv, one_div]
      _ ≤ 1 / 2 * 2 ^ q := by
          gcongr
          · norm_num
          · exact h.least
      _ ≤ _ := by
          gcongr
          split <;> linarith
  · have hgreatest : (2 : ℚ) ^ 53 * 2 ^ 971 < 10 ^ 400 :=
      mod_cast (by decide +kernel : 2 ^ 53 * 2 ^ 971 < 10 ^ 400)
    refine lt_of_le_of_lt hhigh (lt_of_le_of_lt ?_ hgreatest)
    calc (m + 1 / 2 : ℚ) * 2 ^ q ≤ 2 ^ 53 * 2 ^ (971 : Int) := by
          gcongr
          · linarith
          · norm_num
          · exact h.greatest

/-- A number has as many digits as there are powers of ten up to it. -/
theorem toDigits_bounds {n : Nat} (h : 0 < n) :
    (10 : ℚ) ^ ((Nat.toDigits 10 n).length - 1 : Int) ≤ n
      ∧ (n : ℚ) < 10 ^ ((Nat.toDigits 10 n).length : Int) := by
  have hlength : 0 < (Nat.toDigits 10 n).length := Nat.length_toDigits_pos
  have hiff := fun k => @Nat.length_toDigits_le_iff 10 n k (by decide)
  generalize (Nat.toDigits 10 n).length = length at *
  obtain ⟨k, rfl⟩ : ∃ k, length = k + 1 := ⟨length - 1, by omega⟩
  have hlow : 10 ^ k ≤ n := by
    rcases Nat.eq_zero_or_pos k with rfl | hk
    · exact h
    · have := hiff k hk
      omega
  have hhigh : n < 10 ^ (k + 1) := (hiff (k + 1) hlength).1 le_rfl
  push_cast
  rw [add_sub_cancel_right]
  exact ⟨mod_cast hlow, mod_cast hhigh⟩

/-- A decimal that is neither too large nor too small is rounded as the quotient that it is. -/
theorem nearestDecimal_eq_nearest (negative : Bool) {n : Nat} {e : Int} (hn : 0 < n)
    (hlow : 10 ^ (-400 : Int) < (n * 10 ^ e : ℚ)) (hhigh : (n * 10 ^ e : ℚ) < 10 ^ (400 : Int)) :
    nearestDecimal negative n e
      = Binary64.nearest negative (n * Nat.pow 10 e.toNat) (Nat.pow 10 (-e).toNat) := by
  obtain ⟨hdigitsLow, hdigitsHigh⟩ := toDigits_bounds hn
  have hten : (0 : ℚ) < 10 ^ e := by positivity
  have hone : (1 : ℚ) < 10 := by norm_num
  have hshift : ∀ k : Int, (10 : ℚ) ^ (e + k) = 10 ^ k * 10 ^ e := fun k => by
    rw [zpow_add₀ (by norm_num), mul_comm]
  have htopLow : -400 < e + ((Nat.toDigits 10 n).length : Int) := by
    refine (zpow_lt_zpow_iff_right₀ hone).1 (hlow.trans ?_)
    rw [hshift]
    gcongr
  have htopHigh : e + ((Nat.toDigits 10 n).length - 1 : Int) < 400 := by
    refine (zpow_lt_zpow_iff_right₀ hone).1 (lt_of_le_of_lt ?_ hhigh)
    rw [hshift]
    gcongr
  unfold nearestDecimal
  simp only [Int.ofNat_eq_natCast]
  rw [if_neg (by simp; omega), if_neg (by omega)]

theorem pos_of_holds_around (h : Canonical m q) (hm : 0 < m) {n : Nat} {e : Int}
    (hx : (Interval.around m q).Holds (n * 10 ^ e)) : 0 < n := by
  refine Nat.pos_of_ne_zero ?_
  rintro rfl
  have hlow := (bounds_of_holds_around h hm hx).1
  rw [Nat.cast_zero, zero_mul] at hlow
  exact absurd hlow (not_lt.2 (by positivity))

/-- A decimal in the interval of a double is read as that double. -/
theorem nearestDecimal_of_holds (h : Canonical m q) (hm : 0 < m) (negative : Bool) {n : Nat}
    {e : Int} (hx : (Interval.around m q).Holds (n * 10 ^ e)) :
    nearestDecimal negative n e = Binary64.ofCode negative ((q + 1074).toNat * 2 ^ 52 + m) := by
  obtain ⟨hlow, hhigh⟩ := bounds_of_holds_around h hm hx
  have hn := pos_of_holds_around h hm hx
  have hquotient : (n * 10 ^ e : ℚ)
      = (n * Nat.pow 10 e.toNat : Nat) / (Nat.pow 10 (-e).toNat : Nat) := by
    rw [Nat.pow_eq, Nat.pow_eq]
    push_cast
    rw [Interval.ten_pow_toNat e]
    field_simp
  rw [hquotient] at hx
  have hden : 0 < Nat.pow 10 (-e).toNat := Nat.pow_pos (by decide)
  have hnum : 0 < n * Nat.pow 10 e.toNat := Nat.mul_pos hn (Nat.pow_pos (by decide))
  rw [nearestDecimal_eq_nearest negative hn hlow hhigh, Binary64.nearest_eq_ofCode,
    nearestCode_of_holds h hm hnum hden hx]

/-! ## Digits and zeros -/

theorem natOfDigits_append (left right : List Char) :
    natOfDigits (left ++ right) = 10 ^ right.length * natOfDigits left + natOfDigits right :=
  (Nat.ofDigitChars_append 0).trans Nat.ofDigitChars_eq_ofDigitChars_zero

theorem natOfDigits_zeros (k : Nat) : natOfDigits (List.replicate k '0') = 0 :=
  Nat.ofDigitChars_replicate_zero

theorem natOfDigits_append_zeros (digits : List Char) (k : Nat) :
    natOfDigits (digits ++ List.replicate k '0') = 10 ^ k * natOfDigits digits := by
  rw [natOfDigits_append, natOfDigits_zeros, List.length_replicate, Nat.add_zero]

theorem natOfDigits_zeros_append (digits : List Char) (k : Nat) :
    natOfDigits (List.replicate k '0' ++ digits) = natOfDigits digits := by
  rw [natOfDigits_append, natOfDigits_zeros, Nat.mul_zero, Nat.zero_add]

theorem isDigit_of_mem_zeros (k : Nat) : ∀ c ∈ List.replicate k '0', isDigit c = true := by
  intro c hc
  rw [List.eq_of_mem_replicate hc]
  decide

/-- Only zeros are cut off at the end. -/
theorem exists_append_zeros (written : List Char) :
    ∃ k, (written.reverse.dropWhile (· = '0')).reverse ++ List.replicate k '0' = written := by
  obtain ⟨k, hk⟩ : ∃ k, written.reverse.takeWhile (· = '0') = List.replicate k '0' :=
    ⟨_, List.eq_replicate_of_mem fun c hc => by simpa using List.mem_takeWhile_imp hc⟩
  refine ⟨k, ?_⟩
  rw [← List.reverse_replicate, ← hk, ← List.reverse_append, List.takeWhile_append_dropWhile,
    List.reverse_reverse]

/-- Digits show a number when the point stands behind the first of them, times a power of ten. -/
structure Shows (digits : List Char) (exponent : Int) (x : ℚ) : Prop where
  some : digits ≠ []
  all : ∀ c ∈ digits, isDigit c = true
  value : natOfDigits digits * (10 : ℚ) ^ (exponent + 1 - digits.length) = x

/-- The zeros that are cut off count in the exponent. -/
theorem Layout.shows_digits (layout : Layout) (hpos : 0 < (shortest layout.tie m q).1) :
    Shows (layout.digits m q).1 (layout.digits m q).2
      ((shortest layout.tie m q).1 * 10 ^ (shortest layout.tie m q).2) := by
  have hall := layout.isDigit_of_mem_digits m q
  unfold Layout.digits at hall ⊢
  generalize shortest layout.tie m q = found at *
  obtain ⟨d, g⟩ := found
  dsimp only at *
  have hvalue := natOfDigits_toDigits d
  generalize Nat.toDigits 10 d = written at *
  obtain ⟨k, hsplit⟩ := exists_append_zeros written
  generalize (written.reverse.dropWhile (· = '0')).reverse = digits at *
  subst hsplit
  rw [natOfDigits_append_zeros] at hvalue
  refine ⟨?_, hall, ?_⟩
  · rintro rfl
    rw [← hvalue] at hpos
    exact absurd hpos (by simp [natOfDigits])
  · rw [← hvalue, List.length_append, List.length_replicate, Int.ofNat_eq_natCast,
      show g + ((digits.length + k : Nat) : Int) - 1 + 1 - digits.length = k + g by
        push_cast; ring, zpow_add₀ (by norm_num), zpow_natCast]
    push_cast
    ring

/-! ## Layouts -/

/-- A text is read as a decimal. -/
structure ReadsAs (text : List Char) (x : ℚ) : Prop where
  head : ∃ c rest, text = c :: rest ∧ isDigit c = true
  read : ∀ negative, ∃ n e, readMagnitude? negative text = some (nearestDecimal negative n e)
    ∧ n * 10 ^ e = x

variable {whole places rest digits : List Char} {exponent : Int} {x : ℚ}

theorem readsAs_whole (hsome : whole ≠ []) (hwhole : ∀ c ∈ whole, isDigit c = true)
    (h : ShowsExponent rest exponent) (hx : natOfDigits whole * (10 : ℚ) ^ exponent = x) :
    ReadsAs (whole ++ rest) x := by
  refine ⟨?_, fun negative => ⟨_, _, readMagnitude?_whole negative hsome hwhole h, hx⟩⟩
  obtain ⟨c, others, rfl⟩ := List.exists_cons_of_ne_nil hsome
  exact ⟨c, others ++ rest, rfl, hwhole c List.mem_cons_self⟩

theorem readsAs_point (hsome : whole ≠ []) (hwhole : ∀ c ∈ whole, isDigit c = true)
    (hplaces : ∀ c ∈ places, isDigit c = true) (h : ShowsExponent rest exponent)
    (hx : natOfDigits (whole ++ places) * (10 : ℚ) ^ (exponent - places.length) = x) :
    ReadsAs (whole ++ '.' :: (places ++ rest)) x := by
  refine ⟨?_, fun negative => ⟨_, _, readMagnitude?_point negative hsome hwhole hplaces h, hx⟩⟩
  obtain ⟨c, others, rfl⟩ := List.exists_cons_of_ne_nil hsome
  exact ⟨c, others ++ '.' :: (places ++ rest), rfl, hwhole c List.mem_cons_self⟩

theorem readsAs_places (hsome : whole ≠ []) (hwhole : ∀ c ∈ whole, isDigit c = true)
    (hplaces : ∀ c ∈ places, isDigit c = true)
    (hx : natOfDigits (whole ++ places) * (10 : ℚ) ^ (-places.length : Int) = x) :
    ReadsAs (whole ++ '.' :: places) x := by
  have hread := readsAs_point hsome hwhole hplaces .absent rfl
  rwa [List.append_nil, zero_sub, hx] at hread

/-- Zeros in front of the digits and behind them do not change the number. -/
theorem Shows.readsAs_positional (h : Shows digits exponent x) :
    ReadsAs (positional digits exponent) x := by
  have hlength : 0 < digits.length := List.length_pos_iff.2 h.some
  unfold positional
  dsimp only
  split
  · generalize hk : (-exponent - 1).toNat = k
    have hdigits : natOfDigits (['0'] ++ (List.replicate k '0' ++ digits)) = natOfDigits digits :=
      (natOfDigits_zeros_append _ 1).trans (natOfDigits_zeros_append _ _)
    show ReadsAs (['0'] ++ '.' :: (List.replicate k '0' ++ digits)) x
    refine readsAs_places (List.cons_ne_nil _ _) (isDigit_of_mem_zeros 1)
      (List.forall_mem_append.2 ⟨isDigit_of_mem_zeros k, h.all⟩) ?_
    rw [hdigits, ← h.value, List.length_append, List.length_replicate]
    congr 2
    omega
  · split
    · generalize hk : exponent.toNat + 1 - digits.length = k
      have hdigits : natOfDigits (digits ++ List.replicate k '0' ++ ['0'])
          = 10 * (10 ^ k * natOfDigits digits) :=
        (natOfDigits_append_zeros _ 1).trans (congrArg _ (natOfDigits_append_zeros _ _))
      have hexponent : exponent + 1 - digits.length = k := by omega
      refine readsAs_places (List.append_ne_nil_of_left_ne_nil h.some _)
        (List.forall_mem_append.2 ⟨h.all, isDigit_of_mem_zeros k⟩) (isDigit_of_mem_zeros 1) ?_
      rw [hdigits, ← h.value, hexponent]
      simp
      ring
    · generalize hk : exponent.toNat + 1 = k
      refine readsAs_places (by simp [h.some, ← hk]) (fun c hc => h.all c (List.mem_of_mem_take hc))
        (fun c hc => h.all c (List.mem_of_mem_drop hc)) ?_
      rw [List.take_append_drop, ← h.value, List.length_drop]
      congr 2
      omega

/-- The exponent is spelled with its sign or without. -/
theorem spells_exponent (signedExponent : Bool) (exponent : Int) :
    Spells ((if exponent < 0 then ['-'] else if signedExponent then ['+'] else [])
      ++ Nat.toDigits 10 exponent.natAbs) exponent := by
  have hsome : Nat.toDigits 10 exponent.natAbs ≠ [] := Nat.toDigits_ne_nil
  have hall : ∀ c ∈ Nat.toDigits 10 exponent.natAbs, isDigit c = true :=
    fun c hc => isDigit_of_mem_toDigits hc
  have hvalue : digitsValue (Nat.toDigits 10 exponent.natAbs) = exponent.natAbs := by
    rw [← natOfDigits_eq_digitsValue, natOfDigits_toDigits]
  split
  · next hneg =>
      have hspells := Spells.minus hsome hall
      rwa [hvalue, show -(exponent.natAbs : Int) = exponent by omega] at hspells
  · next hneg =>
      have habs : (exponent.natAbs : Int) = exponent := by omega
      split
      · have hspells := Spells.plus hsome hall
        rwa [hvalue, habs] at hspells
      · have hspells := Spells.unsigned hsome hall
        rwa [hvalue, habs] at hspells

theorem Shows.readsAs_scientific (h : Shows digits exponent x) (signedExponent : Bool) :
    ReadsAs (scientific signedExponent digits exponent) x := by
  have hexponent := ShowsExponent.given (spells_exponent signedExponent exponent)
  unfold scientific
  dsimp only
  rw [List.append_assoc]
  rcases digits with _ | ⟨d, _ | ⟨e, rest⟩⟩
  · exact absurd rfl h.some
  · refine readsAs_whole (List.cons_ne_nil d []) h.all hexponent ?_
    rw [← h.value]
    simp
  · obtain ⟨hd, hrest⟩ := List.forall_mem_cons.1 h.all
    refine readsAs_point (List.cons_ne_nil d []) (by simpa using hd) hrest hexponent ?_
    rw [← h.value]
    congr 2
    simp

/-! ## Texts -/

theorem ReadsAs.readFloat?_signed {text : List Char} (h : ReadsAs text x) (negative : Bool) :
    ∃ n e, readFloat? (if negative then '-' :: text else text)
      = some (nearestDecimal negative n e) ∧ n * 10 ^ e = x := by
  obtain ⟨c, rest, rfl, hc⟩ := h.head
  obtain ⟨n, e, hread, hx⟩ := h.read negative
  refine ⟨n, e, ?_, hx⟩
  have hsplit : splitSign (if negative then '-' :: c :: rest else c :: rest)
      = (negative, c :: rest) := by
    cases negative with
    | true => rfl
    | false => exact splitSign_of_head hc
  rw [readFloat?_of_isDigit hsplit hc, hread]

/-- The digits of a positive double are read as a decimal in its interval. -/
theorem Layout.readsAs_magnitude (layout : Layout) (h : Canonical m q) (hm : 0 < m) :
    ∃ x, ReadsAs (layout.magnitude m q) x ∧ (Interval.around m q).Holds x := by
  have hholds := shortest_holds layout.tie h hm
  have hshows := layout.shows_digits (pos_of_holds_around h hm hholds)
  refine ⟨_, ?_, hholds⟩
  rw [Layout.magnitude]
  generalize layout.digits m q = written at hshows
  obtain ⟨digits, exponent⟩ := written
  dsimp only
  split
  · exact hshows.readsAs_positional
  · exact hshows.readsAs_scientific layout.signedExponent

/-- **Doubles are read back.** The text of a double that is a number is read as that double. -/
theorem Layout.readFloat?_text (layout : Layout) {x : Float} (h : x.isNaN = false) :
    readFloat? (layout.text x).toList = some x := by
  unfold Layout.text
  dsimp only
  split
  · next hnan => exact absurd hnan (Binary64.ofFloat_ne_nan h)
  · next negative hinfinite =>
      rw [Binary64.ofCode_of_ofFloat_eq_infinite hinfinite]
      cases negative <;> rfl
  · next negative m q hfinite =>
      obtain ⟨hx, hcanonical⟩ := Binary64.ofCode_of_ofFloat_eq_finite hfinite
      rw [String.toList_ofList]
      by_cases hm : m = 0
      · obtain rfl : q = -1074 := hcanonical.normal.resolve_right (by omega)
        rw [if_pos hm, hx, hm]
        cases negative <;> rfl
      · obtain ⟨y, hreads, hholds⟩ := layout.readsAs_magnitude hcanonical (by omega)
        obtain ⟨n, e, hread, rfl⟩ := hreads.readFloat?_signed negative
        rw [if_neg hm, hread, nearestDecimal_of_holds hcanonical (by omega) negative hholds, ← hx]

end PulseTimeline.Decimal
