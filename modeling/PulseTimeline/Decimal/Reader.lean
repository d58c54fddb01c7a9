import PulseTimeline.Decimal.Binary64
import PulseTimeline.Decimal.Integer

set_option autoImplicit false

/-! # Reading doubles

Doubles from decimal text, with correct rounding: beyond the greatest double the result is an
infinity, below the least a zero. -/

namespace PulseTimeline.Decimal

/-- The double nearest to `± digits * 10 ^ exponent`. Exponents far outside the range of doubles
    are settled by the number of digits alone. -/
def nearestDecimal (negative : Bool) (digits : Nat) (exponent : Int) : Float :=
  let top := exponent + Int.ofNat (Nat.toDigits 10 digits).length
  if digits = 0 || top < -400 then Binary64.nearest negative 0 1
  else if 400 < top then Binary64.toFloat (.infinite negative)
  else Binary64.nearest negative (digits * Nat.pow 10 exponent.toNat)
    (Nat.pow 10 (-exponent).toNat)

/-- An exponent part: nothing, or the letter e, an optional sign and one or more digits. -/
def readExponent? : List Char → Option Int
  | [] => some 0
  | c :: rest => if c = 'e' || c = 'E' then readInteger? rest else none

/-- A number without its sign: digits with an optional point among or around them, and an optional
    exponent part. -/
def readMagnitude? (negative : Bool) (text : List Char) : Option Float := do
  let whole := text.takeWhile isDigit
  let afterWhole := text.dropWhile isDigit
  let (places, rest) := match afterWhole with
    | '.' :: more => (more.takeWhile isDigit, more.dropWhile isDigit)
    | other => ([], other)
  if whole.isEmpty && places.isEmpty then none
  else
    let exponent ← readExponent? rest
    some (nearestDecimal negative (natOfDigits (whole ++ places))
      (exponent - Int.ofNat places.length))

/-- A double: an optional sign before a number or before one of the words for what is not finite,
    in any case of letters. -/
def readFloat? (text : List Char) : Option Float :=
  let (negative, rest) := splitSign text
  let word := String.ofList (rest.map Char.toLower)
  if word = "inf" || word = "infinity" then some (Binary64.toFloat (.infinite negative))
  else if word = "nan" then some (Binary64.toFloat .nan)
  else readMagnitude? negative rest

end PulseTimeline.Decimal
