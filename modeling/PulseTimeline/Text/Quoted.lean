import PulseTimeline.Text.Hidden

set_option autoImplicit false

/-! # Quoted text

The form in which names appear inside rendered statements and messages: between double quotes,
with the quote, the backslash and the common control characters behind a backslash, and every other
hidden character as its code point in hexadecimal. -/

namespace PulseTimeline.Text

/-- The digits of `n` in lower-case hexadecimal, without leading zeros. -/
def hexDigits (n : Nat) : List Char := Nat.toDigits 16 n

/-- A character as it stands between quotes. -/
def escape (c : Char) : List Char :=
  if c = '\x00' then ['\\', '0']
  else if c = '\t' then ['\\', 't']
  else if c = '\r' then ['\\', 'r']
  else if c = '\n' then ['\\', 'n']
  else if c = '"' then ['\\', '"']
  else if c = '\\' then ['\\', '\\']
  else if isHidden c then ['\\', 'u', '\x7b'] ++ hexDigits c.toNat ++ ['\x7d']
  else [c]

/-- A text between double quotes. -/
def quote (text : String) : String :=
  String.ofList ('"' :: text.toList.flatMap escape ++ ['"'])

/-- Quoted texts between square brackets, separated by commas. -/
def quoteList (texts : List String) : String :=
  "[" ++ ", ".intercalate (texts.map quote) ++ "]"

end PulseTimeline.Text
