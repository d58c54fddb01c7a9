set_option autoImplicit false

/-! # Doubles as exact numbers

A finite double is a sign, a natural significand `m` and a binary exponent `q`, and stands for
`± m * 2 ^ q`. `ofFloat` takes a double apart, `nearest` finds the double closest to a quotient of
natural numbers (a half goes to the even significand), and the exact remainder of two doubles is
computed on the significands. -/

namespace PulseTimeline

/-- What the bits of a double stand for. -/
inductive Binary64 where
  | nan
  | infinite (negative : Bool)
  | finite (negative : Bool) (significand : Nat) (exponent : Int)
  deriving DecidableEq

namespace Binary64

/-- Take a double apart: one bit of sign, eleven of exponent, fifty-two of fraction. -/
def ofFloat (x : Float) : Binary64 :=
  let bits := x.toBits.toNat
  let negative := bits >>> 63 == 1
  let biased := (bits >>> 52) % (1 <<< 11)
  let fraction := bits % (1 <<< 52)
  if biased = 2047 then
    if fraction = 0 then .infinite negative else .nan
  else if biased = 0 then .finite negative fraction (-1074)
  else .finite negative (1 <<< 52 + fraction) (Int.ofNat biased - 1075)

/-- The quotient of two natural numbers, rounded to the nearest; a half goes to the even one. -/
def divideToEven (num den : Nat) : Nat :=
  let quotient := num / den
  let rest := num % den
  if 2 * rest < den then quotient
  else if 2 * rest = den && quotient % 2 = 0 then quotient
  else quotient + 1

/-- The binary exponent at which `num / den` has a significand of fifty-three bits, or the least
    exponent of all for smaller quotients. -/
def exponentOf (num den : Nat) : Int :=
  let guess := Int.ofNat num.log2 - Int.ofNat den.log2 - 52
  let fits := num <<< (-guess).toNat ≥ (den <<< guess.toNat) <<< 52
  max (if fits then guess else guess - 1) (-1074)

/-- The double with the given sign that is nearest to `num / den`. A carry out of the significand
    moves into the exponent by plain addition of the bits. -/
def nearest (negative : Bool) (num den : Nat) : Float :=
  let sign : Nat := if negative then 1 <<< 63 else 0
  if num = 0 then Float.ofBits (UInt64.ofNat sign)
  else
    let q := exponentOf num den
    let significand := divideToEven (num <<< (-q).toNat) (den <<< q.toNat)
    let bits := (q + 1074).toNat <<< 52 + significand
    Float.ofBits (UInt64.ofNat (sign + min bits (2047 <<< 52)))

/-- The double that stands for `± m * 2 ^ q`, rounded where it has to be. -/
def toFloat : Binary64 → Float
  | nan => Float.ofBits 0x7ff8000000000000
  | infinite negative => Float.ofBits (if negative then 0xfff0000000000000 else 0x7ff0000000000000)
  | finite negative m q => nearest negative (m <<< q.toNat) (1 <<< (-q).toNat)

/-- The double nearest to an integer. -/
def floatOfInt (n : Int) : Float := nearest (n < 0) n.natAbs 1

/-- The integer that is left when the places behind the point are cut off. What is not a number
    gives zero, and an infinity stands for `bound` with its sign. -/
def truncate (bound : Int) : Binary64 → Int
  | nan => 0
  | infinite negative => if negative then -bound else bound
  | finite negative m q =>
    let magnitude := Int.ofNat ((m <<< q.toNat) >>> (-q).toNat)
    if negative then -magnitude else magnitude

/-- The remainder of a division whose quotient is cut toward zero, exact, with the sign of the
    dividend. There is none by zero or of an infinity. -/
def remainder : Binary64 → Binary64 → Binary64
  | finite negative m q, finite _ n r =>
    if n = 0 then nan
    else
      let e := min q r
      finite negative ((m <<< (q - e).toNat) % (n <<< (r - e).toNat)) e
  | finite negative m q, infinite _ => finite negative m q
  | _, _ => nan

end Binary64

end PulseTimeline
