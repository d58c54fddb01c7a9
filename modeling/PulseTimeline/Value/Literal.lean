import PulseTimeline.Decimal.Reader
import PulseTimeline.Text.Blank
import PulseTimeline.Value.Basic

set_option autoImplicit false

/-! # Reading literals

A literal is a truth value, an integer or a double; the first of these readings that succeeds
counts, and its value is then cast to the type that is asked for. White space around it does not
matter. -/

namespace PulseTimeline

/-- A text that is no literal. -/
structure LiteralError where
  text : String
  expected : Option ScalarType
  deriving DecidableEq

/-- The wording of the error. -/
def LiteralError.message (error : LiteralError) : String :=
  let language := match error.expected with
    | some type => type.text
    | none => "QUA"
  "`" ++ error.text ++ "` is not a valid " ++ language ++ " literal"

namespace Value

/-- Whether a text is a word in lower-case letters, whatever the case of its own ASCII letters. -/
def matchesWord (text : List Char) (word : String) : Bool :=
  text.map Char.toLower = word.toList

/-- The value that a text without surrounding white space spells. -/
def ofTrimmed? (text : List Char) : Option Value :=
  if matchesWord text "true" then some (bool true)
  else if matchesWord text "false" then some (bool false)
  else match Decimal.readInt64? text with
    | some n => some (int n)
    | none => (Decimal.readFloat? text).map real

/-- The value that a literal spells, as a value of the expected type if there is one. -/
def ofLiteral (text : String) (expected : Option ScalarType) : Except LiteralError Value :=
  match ofTrimmed? (Text.trim text.toList) with
  | none => .error ⟨text, expected⟩
  | some value => .ok (match expected with
    | some type => value.cast type
    | none => value)

end Value

end PulseTimeline
