import PulseTimeline.Decimal.Shortest

set_option autoImplicit false

/-! # Writing doubles

A layout fixes when a double is written positionally and when in scientific notation, and how the
exponent looks. The digits are the shortest that read back as the same double. -/

namespace PulseTimeline.Decimal

/-- The decisions of a number format. -/
structure Layout where
  /-- The least exponent of the first digit that is written positionally. -/
  minPositional : Int
  /-- The greatest exponent of the first digit that is written positionally. -/
  maxPositional : Int
  /-- Whether a positive exponent carries its sign. -/
  signedExponent : Bool
  /-- Which of two equally near shortest decimals is written. -/
  tie : Tie

/-- Digits with the point after the first `1 + exponent` of them, and at least one place. -/
def positional (digits : List Char) (exponent : Int) : List Char :=
  if exponent < 0 then
    '0' :: '.' :: List.replicate (-exponent - 1).toNat '0' ++ digits
  else
    let whole := exponent.toNat + 1
    if digits.length ≤ whole then
      digits ++ List.replicate (whole - digits.length) '0' ++ ['.', '0']
    else digits.take whole ++ '.' :: digits.drop whole

/-- Digits with the point after the first of them, and a power of ten. -/
def scientific (signedExponent : Bool) (digits : List Char) (exponent : Int) : List Char :=
  let mantissa := match digits with
    | d :: e :: rest => d :: '.' :: e :: rest
    | short => short
  let sign := if exponent < 0 then ['-'] else if signedExponent then ['+'] else []
  mantissa ++ 'e' :: sign ++ Nat.toDigits 10 exponent.natAbs

namespace Layout

/-- The digits of `m * 2 ^ q`, without trailing zeros, and the exponent of the first. -/
def digits (layout : Layout) (m : Nat) (q : Int) : List Char × Int :=
  let (d, g) := shortest layout.tie m q
  let all := Nat.toDigits 10 d
  ((all.reverse.dropWhile (· = '0')).reverse, g + Int.ofNat all.length - 1)

/-- The text of a positive double `m * 2 ^ q`. -/
def magnitude (layout : Layout) (m : Nat) (q : Int) : List Char :=
  let (ds, exponent) := layout.digits m q
  if layout.minPositional ≤ exponent && exponent ≤ layout.maxPositional then
    positional ds exponent
  else scientific layout.signedExponent ds exponent

/-- The text of a double. -/
def text (layout : Layout) (x : Float) : String :=
  let signed := fun (negative : Bool) (cs : List Char) =>
    String.ofList (if negative then '-' :: cs else cs)
  match Binary64.ofFloat x with
  | .nan => "NaN"
  | .infinite negative => signed negative ['i', 'n', 'f']
  | .finite negative m q =>
    signed negative (if m = 0 then ['0', '.', '0'] else layout.magnitude m q)

end Layout

/-- Values are written positionally from 0.0001 up to below 10^16. -/
def valueLayout : Layout := ⟨-4, 15, false, .up⟩

/-- Documents are written positionally from 0.00001 up to below 10^16. -/
def documentLayout : Layout := ⟨-5, 15, true, .even⟩

end PulseTimeline.Decimal
