import PulseTimeline.Decimal.Integer
import PulseTimeline.Decimal.Layout
import PulseTimeline.Json.Basic

set_option autoImplicit false

/-! # Writing JSON

The compact form, without any space. Strings escape the quote, the backslash and the control
characters; what has no JSON form, such as a double that is not finite, is written as null. -/

namespace PulseTimeline.Json

/-- A character inside a JSON string. -/
def escapeChar (c : Char) : List Char :=
  if c = '"' then ['\\', '"']
  else if c = '\\' then ['\\', '\\']
  else if c = '\x08' then ['\\', 'b']
  else if c = '\t' then ['\\', 't']
  else if c = '\n' then ['\\', 'n']
  else if c = '\x0c' then ['\\', 'f']
  else if c = '\r' then ['\\', 'r']
  else if c.toNat < 0x20 then
    ['\\', 'u', '0', '0', Nat.digitChar (c.toNat / 16), Nat.digitChar (c.toNat % 16)]
  else [c]

/-- A string with its quotes. -/
def renderString (value : String) : String :=
  String.ofList ('"' :: value.toList.flatMap escapeChar ++ ['"'])

/-- The text of a double. -/
def renderFloat (x : Float) : String :=
  if x.isFinite then Decimal.documentLayout.text x else "null"

mutual

/-- The compact text of a document. -/
def render : Json → String
  | null => "null"
  | bool value => if value then "true" else "false"
  | int value => Decimal.integerText value
  | float value => renderFloat value
  | text value => renderString value
  | array items => "[" ++ ",".intercalate (renderItems items) ++ "]"
  | object members => "\x7b" ++ ",".intercalate (renderMembers members) ++ "\x7d"
  | unreadable => "null"

/-- The texts of a list of documents. -/
def renderItems : List Json → List String
  | [] => []
  | item :: rest => render item :: renderItems rest

/-- The texts of members, each a key and a value. -/
def renderMembers : List (String × Json) → List String
  | [] => []
  | (key, value) :: rest => (renderString key ++ ":" ++ render value) :: renderMembers rest

end

end PulseTimeline.Json
