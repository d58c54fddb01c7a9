set_option autoImplicit false

/-! # Integers in decimal

Reading and writing integers. Written integers have no needless digits or signs; read ones may have
leading zeros and either sign. -/

namespace PulseTimeline.Decimal

/-- Whether a character is one of the ten ASCII digits. -/
def isDigit (c : Char) : Bool := '0' ≤ c && c ≤ '9'

/-- The number that a run of digits spells; nothing spells zero. -/
def natOfDigits (digits : List Char) : Nat :=
  digits.foldl (fun n c => 10 * n + (c.toNat - '0'.toNat)) 0

/-- Split off an optional sign; the flag says whether it is a minus. -/
def splitSign : List Char → Bool × List Char
  | '-' :: rest => (true, rest)
  | '+' :: rest => (false, rest)
  | rest => (false, rest)

/-- An optional sign and one or more digits. -/
def readInteger? (text : List Char) : Option Int :=
  let (negative, digits) := splitSign text
  if digits.isEmpty || !digits.all isDigit then none
  else some (if negative then -Int.ofNat (natOfDigits digits) else Int.ofNat (natOfDigits digits))

/-- An integer that fits in sixty-four bits with sign. -/
def readInt64? (text : List Char) : Option Int64 := do
  let n ← readInteger? text
  if Int64.minValue.toInt ≤ n && n ≤ Int64.maxValue.toInt then some (Int64.ofInt n) else none

/-- The digits of a natural number. -/
def natText (n : Nat) : String := String.ofList (Nat.toDigits 10 n)

/-- The digits of an integer behind its minus sign, if it has one. -/
def integerText (n : Int) : String :=
  String.ofList ((if n < 0 then ['-'] else []) ++ Nat.toDigits 10 n.natAbs)

end PulseTimeline.Decimal
