import PulseTimeline.Decimal.Binary64

set_option autoImplicit false

/-! # The shortest decimal of a double

Every real number in an interval around `m * 2 ^ q` rounds to that double; its ends belong to it
exactly when `m` is even. Among the decimals `d * 10 ^ g` in the interval the shortest are those on
the coarsest grid, that is with the greatest `g`, and of these the nearest to the double is taken.

On one grid only the two neighbours of the double can be nearest, so `search` tests those two, from
a grid that is too coarse downwards. -/

namespace PulseTimeline.Decimal

/-- Which of two decimals at the same distance is taken. -/
inductive Tie where
  | up
  | even
  deriving DecidableEq

/-- The interval of a double: its value and the two ends, as multiples of `unit = num / den`. -/
structure Interval where
  lower : Nat
  value : Nat
  upper : Nat
  /-- Whether the ends round to the double as well. -/
  closed : Bool
  num : Nat
  den : Nat

/-- The reals that round to `m * 2 ^ q`. Below a power of two the next double is half as far,
    unless the spacing is the least there is. -/
def Interval.around (m : Nat) (q : Int) : Interval where
  lower := 4 * m - (if m = 1 <<< 52 && -1074 < q then 1 else 2)
  value := 4 * m
  upper := 4 * m + 2
  closed := m % 2 = 0
  num := 1 <<< (q - 2).toNat
  den := 1 <<< (2 - q).toNat

/-- The nearest decimal of the interval on the grid `10 ^ g`, if one lies there. -/
def Interval.onGrid (range : Interval) (tie : Tie) (g : Int) : Option Nat :=
  let scale := range.num * Nat.pow 10 (-g).toNat
  let step := range.den * Nat.pow 10 g.toNat
  let below := range.value * scale / step
  let above := below + 1
  let within := fun (d : Nat) =>
    if range.closed then range.lower * scale ≤ d * step && d * step ≤ range.upper * scale
    else range.lower * scale < d * step && d * step < range.upper * scale
  match within below, within above with
  | true, true =>
    let down := range.value * scale - below * step
    let up := above * step - range.value * scale
    if down < up then some below
    else if up < down then some above
    else match tie with
      | .up => some above
      | .even => some (if below % 2 = 0 then below else above)
  | true, false => some below
  | false, true => some above
  | false, false => none

/-- The first hit on the grids `10 ^ g`, `10 ^ (g - 1)`, … -/
def Interval.search (range : Interval) (tie : Tie) : Nat → Int → Nat × Int
  | 0, g =>
    (range.value * range.num * Nat.pow 10 (-g).toNat / (range.den * Nat.pow 10 g.toNat), g)
  | steps + 1, g =>
    match range.onGrid tie g with
    | some d => (d, g)
    | none => range.search tie steps (g - 1)

/-- The shortest decimal `(d, g)` that rounds to `m * 2 ^ q`, standing for `d * 10 ^ g`. The search
    starts at a power of ten above the double; twenty grids reach seventeen digits. -/
def shortest (tie : Tie) (m : Nat) (q : Int) : Nat × Int :=
  let magnitude := (Int.ofNat m.log2 + q) * 30103 / 100000
  (Interval.around m q).search tie 20 (magnitude + 2)

end PulseTimeline.Decimal
