import PulseTimeline.Decimal.Shortest
import PulseTimeline.Proofs.Decimal.Rounding

set_option autoImplicit false

/-! # The shortest decimal is found

The search for a shortest decimal goes from grid to grid and may in principle end without a hit. It
does not: seventeen digits are enough for every double, and the estimate of the first grid is off by
little. What is found lies in the interval of the double, so that it is rounded to it. -/

namespace PulseTimeline.Decimal

/-! ## Grids -/

namespace Interval

variable {range : Interval} {tie : Tie} {g : Int}

/-- What the ends and the value of an interval are multiples of. -/
def unit (range : Interval) : ℚ := range.num / range.den

/-- A number lies in the interval, and not at its ends unless it is closed. -/
structure Holds (range : Interval) (x : ℚ) : Prop where
  lower : range.lower * range.unit ≤ x
  upper : x ≤ range.upper * range.unit
  ends : range.closed = false → x ≠ range.lower * range.unit ∧ x ≠ range.upper * range.unit

theorem ten_pow_toNat (g : Int) : (10 : ℚ) ^ g.toNat = 10 ^ g * 10 ^ (-g).toNat := by
  obtain ⟨n, rfl | rfl⟩ := g.eq_nat_or_neg
  · simp
  · simp

/-- Multiples of the unit are compared with points of a grid without fractions. -/
theorem grid_cmp (hden : 0 < range.den) (g : Int) (a d : Nat) :
    (a * (range.num * Nat.pow 10 (-g).toNat) ≤ d * (range.den * Nat.pow 10 g.toNat)
      ↔ a * range.unit ≤ d * 10 ^ g)
    ∧ (d * (range.den * Nat.pow 10 g.toNat) ≤ a * (range.num * Nat.pow 10 (-g).toNat)
      ↔ d * 10 ^ g ≤ a * range.unit) := by
  have hpos : (0 : ℚ) < range.den := mod_cast hden
  have hfactor : (0 : ℚ) < range.den * 10 ^ (-g).toNat := by positivity
  have hleft : ((a * (range.num * Nat.pow 10 (-g).toNat) : Nat) : ℚ)
      = a * range.unit * (range.den * 10 ^ (-g).toNat) := by
    rw [unit, Nat.pow_eq]
    push_cast
    field_simp
  have hright : ((d * (range.den * Nat.pow 10 g.toNat) : Nat) : ℚ)
      = d * 10 ^ g * (range.den * 10 ^ (-g).toNat) := by
    rw [Nat.pow_eq]
    push_cast
    rw [ten_pow_toNat g]
    ring
  rw [← @Nat.cast_le ℚ, ← @Nat.cast_le ℚ, hleft, hright, mul_le_mul_iff_left₀ hfactor,
    mul_le_mul_iff_left₀ hfactor]
  exact ⟨Iff.rfl, Iff.rfl⟩

/-- The test of a point of a grid is the question whether it lies in the interval. -/
theorem within_iff (hden : 0 < range.den) (g : Int) (d : Nat) :
    (if range.closed then
      decide (range.lower * (range.num * Nat.pow 10 (-g).toNat)
          ≤ d * (range.den * Nat.pow 10 g.toNat))
        && decide (d * (range.den * Nat.pow 10 g.toNat)
          ≤ range.upper * (range.num * Nat.pow 10 (-g).toNat))
    else
      decide (range.lower * (range.num * Nat.pow 10 (-g).toNat)
          < d * (range.den * Nat.pow 10 g.toNat))
        && decide (d * (range.den * Nat.pow 10 g.toNat)
          < range.upper * (range.num * Nat.pow 10 (-g).toNat))) = true
      ↔ range.Holds (d * 10 ^ g) := by
  obtain ⟨hlow, hlow'⟩ := grid_cmp hden g range.lower d
  obtain ⟨hhigh, hhigh'⟩ := grid_cmp hden g range.upper d
  by_cases hclosed : range.closed = true
  · rw [if_pos hclosed, Bool.and_eq_true, decide_eq_true_eq, decide_eq_true_eq, hlow, hhigh']
    exact ⟨fun h => ⟨h.1, h.2, fun hopen => by rw [hclosed] at hopen; cases hopen⟩,
      fun h => ⟨h.lower, h.upper⟩⟩
  · rw [if_neg hclosed, Bool.and_eq_true, decide_eq_true_eq, decide_eq_true_eq, ← Nat.not_le,
      ← Nat.not_le, hlow', hhigh, not_le, not_le]
    constructor
    · exact fun h => ⟨h.1.le, h.2.le, fun _ => ⟨h.1.ne', h.2.ne⟩⟩
    · intro h
      obtain ⟨hne, hne'⟩ := h.ends (Bool.not_eq_true _ ▸ hclosed)
      exact ⟨lt_of_le_of_ne h.lower hne.symm, lt_of_le_of_ne h.upper hne'⟩

/-- The next point above the value lies in the interval where the grid is fine enough. -/
theorem holds_above (hden : 0 < range.den) (hlower : range.lower ≤ range.value)
    (hfine : range.value * range.unit + 10 ^ g < range.upper * range.unit) :
    range.Holds ((range.value * (range.num * Nat.pow 10 (-g).toNat)
      / (range.den * Nat.pow 10 g.toNat) + 1 : Nat) * 10 ^ g) := by
  have hstep : 0 < range.den * Nat.pow 10 g.toNat := Nat.mul_pos hden (Nat.pow_pos (by decide))
  generalize hbelow : range.value * (range.num * Nat.pow 10 (-g).toNat)
    / (range.den * Nat.pow 10 g.toNat) = below
  have hle : below * 10 ^ g ≤ range.value * range.unit := by
    rw [← (grid_cmp hden g range.value below).2, ← hbelow]
    exact Nat.div_mul_le_self _ _
  have hlt : range.value * range.unit < (below + 1 : Nat) * 10 ^ g := by
    rw [← not_le, ← (grid_cmp hden g range.value (below + 1)).2, ← hbelow, not_le]
    exact (Nat.lt_mul_div_succ _ hstep).trans_eq (Nat.mul_comm _ _)
  have hunit : 0 ≤ range.unit := by
    rw [unit]
    positivity
  have hless : range.lower * range.unit < (below + 1 : Nat) * 10 ^ g :=
    (mul_le_mul_of_nonneg_right (mod_cast hlower) hunit).trans_lt hlt
  have hmore : (below + 1 : Nat) * 10 ^ g < range.upper * range.unit := by
    push_cast
    linarith
  exact ⟨hless.le, hmore.le, fun _ => ⟨hless.ne', hmore.ne⟩⟩

/-- What is found on a grid lies in the interval, and if nothing is found, then not even the next
    point above the value lies there. -/
theorem onGrid_cases (hden : 0 < range.den) (tie : Tie) (g : Int) :
    (∃ d, range.onGrid tie g = some d ∧ range.Holds (d * 10 ^ g))
      ∨ range.onGrid tie g = none
        ∧ ¬range.Holds ((range.value * (range.num * Nat.pow 10 (-g).toNat)
          / (range.den * Nat.pow 10 g.toNat) + 1 : Nat) * 10 ^ g) := by
  simp only [← within_iff hden]
  unfold onGrid
  dsimp only
  split
  · next hbelow habove =>
      left
      split
      · exact ⟨_, rfl, hbelow⟩
      · split
        · exact ⟨_, rfl, habove⟩
        · cases tie with
          | up => exact ⟨_, rfl, habove⟩
          | even =>
              dsimp only
              split
              · exact ⟨_, rfl, hbelow⟩
              · exact ⟨_, rfl, habove⟩
  · next hbelow _ => exact Or.inl ⟨_, rfl, hbelow⟩
  · next _ habove => exact Or.inl ⟨_, rfl, habove⟩
  · next _ habove => exact Or.inr ⟨rfl, Bool.eq_false_iff.1 habove⟩

/-! ## Searching -/

/-- If one of the grids is fine enough, then what is found lies in the interval. -/
theorem holds_search (hden : 0 < range.den) (hlower : range.lower ≤ range.value) :
    ∀ (steps : Nat) (g : Int),
      (∃ k < steps, range.value * range.unit + 10 ^ (g - (k : Int)) < range.upper * range.unit) →
      range.Holds ((range.search tie steps g).1 * 10 ^ (range.search tie steps g).2)
  | 0, _, ⟨_, hk, _⟩ => absurd hk (Nat.not_lt_zero _)
  | steps + 1, g, ⟨k, hk, hfine⟩ => by
      rw [search]
      rcases onGrid_cases hden tie g with ⟨d, hgrid, hholds⟩ | ⟨hgrid, hmiss⟩
      · rw [hgrid]
        exact hholds
      · rw [hgrid]
        -- The grid that is fine enough is one of the next.
        cases k with
        | zero =>
            rw [Nat.cast_zero, sub_zero] at hfine
            exact absurd (holds_above hden hlower hfine) hmiss
        | succ k =>
            refine holds_search hden hlower steps (g - 1) ⟨k, by omega, ?_⟩
            rwa [show g - 1 - (k : Int) = g - (k + 1 : Nat) by push_cast; ring]

end Interval

/-! ## The first grid -/

/-- A fraction that is not below the logarithm of two and hardly above it estimates the logarithms
    of powers of two well, unless they are too large for it. -/
theorem ten_zpow_le {p s : Nat} (hs : 0 < s) (hlow : (2 : ℚ) ^ s ≤ 10 ^ p)
    (hhigh : (10 : ℚ) ^ p ≤ 2 ^ (s + 1)) {n : Int} (h : n ≤ s) :
    (10 : ℚ) ^ (n * p / s) ≤ 2 ^ (n + 1) := by
  have hpowers : ((10 : ℚ) ^ p) ^ n ≤ 2 ^ ((n + 1) * s) := by
    obtain ⟨k, rfl | rfl⟩ := n.eq_nat_or_neg
    · calc ((10 : ℚ) ^ p) ^ (k : Int) ≤ (2 ^ (s + 1)) ^ (k : Int) := by
            rw [zpow_natCast, zpow_natCast]
            gcongr
        _ = 2 ^ ((s + 1 : Nat) * k : Int) := by rw [← zpow_natCast, ← zpow_mul]
        _ ≤ 2 ^ ((k + 1) * s : Int) := by
            refine zpow_le_zpow_right₀ one_le_two ?_
            push_cast
            linarith
    · calc ((10 : ℚ) ^ p) ^ (-k : Int) ≤ (2 ^ s) ^ (-k : Int) := by
            rw [zpow_neg, zpow_neg, zpow_natCast, zpow_natCast]
            gcongr
        _ = 2 ^ (s * -k : Int) := by rw [← zpow_natCast, ← zpow_mul]
        _ ≤ 2 ^ ((-k + 1) * s : Int) := by
            refine zpow_le_zpow_right₀ one_le_two ?_
            linarith
  refine (pow_le_pow_iff_left₀ (by positivity) (by positivity) hs.ne').1 ?_
  calc ((10 : ℚ) ^ (n * p / s)) ^ s = 10 ^ (n * p / s * s) := by rw [← zpow_natCast, ← zpow_mul]
    _ ≤ 10 ^ (n * p) := zpow_le_zpow_right₀ (by norm_num) (Int.ediv_mul_le _ (by omega))
    _ = (10 ^ p) ^ n := by rw [mul_comm, zpow_mul, zpow_natCast]
    _ ≤ 2 ^ ((n + 1) * s) := hpowers
    _ = (2 ^ (n + 1)) ^ s := by rw [zpow_mul, zpow_natCast]

theorem ten_zpow_estimate_le {n : Int} (h : n ≤ 100000) :
    (10 : ℚ) ^ (n * 30103 / 100000) ≤ 2 ^ (n + 1) := by
  have hlow : 2 ^ 100000 ≤ 10 ^ 30103 := by decide +kernel
  have hhigh : 10 ^ 30103 ≤ 2 ^ (100000 + 1) := by decide +kernel
  exact ten_zpow_le (by decide) (mod_cast hlow) (mod_cast hhigh) h

/-! ## Doubles -/

open Binary64 (Canonical)

variable {m : Nat} {q : Int}

/-- The unit of the interval of a double is a quarter of the last place of its significand. -/
theorem four_mul_unit_around (m : Nat) (q : Int) : 4 * (Interval.around m q).unit = 2 ^ q := by
  have hunit : (Interval.around m q).unit = 2 ^ (q - 2) := by
    have hshift := Binary64.shifted_div 1 1 (2 - q)
    rw [neg_sub, Nat.cast_one, div_one, one_div, ← zpow_neg, neg_sub] at hshift
    exact hshift
  rw [hunit, zpow_sub₀ two_ne_zero]
  ring

theorem value_around (m : Nat) (q : Int) :
    ((Interval.around m q).value : ℚ) * (Interval.around m q).unit = m * 2 ^ q := by
  rw [← four_mul_unit_around m q]
  show ((4 * m : Nat) : ℚ) * _ = _
  push_cast
  ring

theorem upper_around (m : Nat) (q : Int) :
    ((Interval.around m q).upper : ℚ) * (Interval.around m q).unit = (m + 1 / 2) * 2 ^ q := by
  rw [← four_mul_unit_around m q]
  show ((4 * m + 2 : Nat) : ℚ) * _ = _
  push_cast
  ring

theorem lower_around (hm : 0 < m) (q : Int) :
    ((Interval.around m q).lower : ℚ) * (Interval.around m q).unit
      = (m - (if m = 2 ^ 52 ∧ -1074 < q then 1 / 4 else 1 / 2)) * 2 ^ q := by
  have hlower : (Interval.around m q).lower
      = 4 * m - (if m = 2 ^ 52 ∧ -1074 < q then 1 else 2) := by
    simp only [Interval.around, Bool.and_eq_true, decide_eq_true_eq]
    rfl
  rw [← four_mul_unit_around m q, hlower]
  split
  · rw [Nat.cast_sub (by omega)]
    push_cast
    ring
  · rw [Nat.cast_sub (by omega)]
    push_cast
    ring

/-- Seventeen digits are enough, wherever the estimate of the first grid is. -/
theorem ten_zpow_last_grid_lt (h : Canonical m q) (hm : 0 < m) :
    (10 : ℚ) ^ ((Int.ofNat m.log2 + q) * 30103 / 100000 + 2 - (19 : Nat)) < 1 / 2 * 2 ^ q := by
  have hlog : m.log2 < 53 := (Nat.log2_lt hm.ne').2 h.lt
  have hrange := h.greatest
  have hestimate : (10 : ℚ) ^ ((Int.ofNat m.log2 + q) * 30103 / 100000) ≤ 2 ^ (q + 53) :=
    (ten_zpow_estimate_le (by rw [Int.ofNat_eq_natCast]; omega)).trans
      (zpow_le_zpow_right₀ one_le_two (by rw [Int.ofNat_eq_natCast]; omega))
  generalize (Int.ofNat m.log2 + q) * 30103 / 100000 = e at hestimate ⊢
  have hpos : (0 : ℚ) < 2 ^ q := by positivity
  calc (10 : ℚ) ^ (e + 2 - (19 : Nat)) = 10 ^ e / 10 ^ 17 := by
        rw [show e + 2 - (19 : Nat) = e - 17 by push_cast; ring, zpow_sub₀ (by norm_num)]
        norm_num
    _ ≤ 2 ^ (q + 53) / 10 ^ 17 := by gcongr
    _ = 2 ^ 53 / 10 ^ 17 * 2 ^ q := by
        rw [zpow_add₀ two_ne_zero, zpow_ofNat]
        ring
    _ < 1 / 2 * 2 ^ q := mul_lt_mul_of_pos_right (by norm_num) hpos

/-- The search for the shortest decimal of a double ends in the interval of the double. -/
theorem shortest_holds (tie : Tie) (h : Canonical m q) (hm : 0 < m) :
    (Interval.around m q).Holds ((shortest tie m q).1 * 10 ^ (shortest tie m q).2) := by
  have hden : 0 < (Interval.around m q).den := Binary64.shift_pos Nat.one_pos _
  have hlower : (Interval.around m q).lower ≤ (Interval.around m q).value := Nat.sub_le _ _
  refine Interval.holds_search hden hlower 20 _ ⟨19, by decide, ?_⟩
  rw [value_around, upper_around, add_mul (m : ℚ), add_lt_add_iff_left]
  exact ten_zpow_last_grid_lt h hm

/-- What lies in the interval of a double is rounded to it. -/
theorem nearestCode_of_holds (h : Canonical m q) (hm : 0 < m) {num den : Nat} (hnum : 0 < num)
    (hden : 0 < den) (hx : (Interval.around m q).Holds (num / den)) :
    Binary64.nearestCode num den = (q + 1074).toNat * 2 ^ 52 + m := by
  have hpos : (0 : ℚ) < 2 ^ q := by positivity
  obtain ⟨hlow, hhigh, hends⟩ := hx
  rw [lower_around hm] at hlow hends
  rw [upper_around] at hhigh hends
  by_cases hbinade : m = 2 ^ 52 ∧ -1074 < q
  · rw [if_pos hbinade] at hlow
    refine Binary64.nearestCode_eq h hnum hden ?_ hhigh (fun hodd => ?_) fun _ _ => hlow
    · exact (mul_le_mul_of_nonneg_right (by linarith) hpos.le).trans hlow
    · rw [hbinade.1] at hodd
      norm_num at hodd
  · rw [if_neg hbinade] at hlow hends
    refine Binary64.nearestCode_eq h hnum hden hlow hhigh (fun hodd => hends ?_) fun heq hq =>
      absurd ⟨heq, hq⟩ hbinade
    exact decide_eq_false (by omega)

end PulseTimeline.Decimal
