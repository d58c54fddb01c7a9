import PulseTimeline.Decimal.Reader
import PulseTimeline.Json.Basic

set_option autoImplicit false

/-! # The tokens of a JSON text

A token is a mark of punctuation, a word or a string. The lexer is an automaton over characters:
`step` consumes one character and may add a token, so a whole text is one fold. Words are maximal
runs of the characters that numbers and the three constants are made of. A number that is too large
and a string in which half of a surrogate pair stands alone are tokens that cannot be read. -/

namespace PulseTimeline.Json

/-- A mark of punctuation, the document that a word spells, or a string. -/
inductive Token where
  | openBrace
  | closeBrace
  | openBracket
  | closeBracket
  | colon
  | comma
  | word (value : Json)
  /-- A string; nothing if it cannot be read. -/
  | string (value : Option String)

/-! ## Words -/

/-- Whether a character can stand in a number or a constant. -/
def isWordChar (c : Char) : Bool :=
  c.isAlphanum || c = '-' || c = '+' || c = '.'

/-- Split the fraction off a number: a point and one or more digits, or nothing. -/
def splitFraction? : List Char → Option (List Char × List Char)
  | '.' :: rest =>
    let places := rest.takeWhile Decimal.isDigit
    if places.isEmpty then none else some (places, rest.dropWhile Decimal.isDigit)
  | rest => some ([], rest)

/-- A number: digits without a needless leading zero, an optional fraction and an optional
    exponent. Digits alone are an integer if they fit in sixty-four bits; the negative zero, longer
    integers and all else are doubles, of which only the finite ones can be read. -/
def readNumber? (word : List Char) : Option Json := do
  let (negative, unsigned) := match word with
    | '-' :: rest => (true, rest)
    | rest => (false, rest)
  let whole := unsigned.takeWhile Decimal.isDigit
  let afterWhole := unsigned.dropWhile Decimal.isDigit
  let (places, afterPlaces) ← splitFraction? afterWhole
  let exponent ← Decimal.readExponent? afterPlaces
  let leadingZero := match whole with
    | '0' :: _ :: _ => true
    | _ => false
  if whole.isEmpty || leadingZero then none
  else
    let n := Decimal.natOfDigits whole
    let fits := if negative then 0 < n && n ≤ 1 <<< 63 else n < 1 <<< 64
    if afterWhole.isEmpty && fits then some (int (if negative then -Int.ofNat n else Int.ofNat n))
    else
      let x := Decimal.nearestDecimal negative (Decimal.natOfDigits (whole ++ places))
        (exponent - Int.ofNat places.length)
      some (if x.isFinite then float x else unreadable)

/-- The document that a word spells. -/
def readWord? (word : List Char) : Option Json :=
  if word = ['n', 'u', 'l', 'l'] then some null
  else if word = ['t', 'r', 'u', 'e'] then some (bool true)
  else if word = ['f', 'a', 'l', 's', 'e'] then some (bool false)
  else readNumber? word

/-! ## The automaton -/

/-- Where the lexer stands. Characters read so far are kept in reverse; the characters of a string
    are lost once a surrogate in it stands alone. -/
inductive LexMode where
  | between
  | word (read : List Char)
  | string (read : Option (List Char))
  /-- Behind a backslash. -/
  | escape (read : Option (List Char))
  /-- Inside `\u`: how many hexadecimal digits are missing, their value so far, and the high
      surrogate that this unit has to complete. -/
  | unit (read : Option (List Char)) (missing : Nat) (value : Nat) (high : Option Nat)
  /-- Behind a high surrogate, which a further `\u` has to complete. -/
  | pairEscape (read : Option (List Char)) (high : Nat)
  | pairUnit (read : Option (List Char)) (high : Nat)

/-- The mode of the lexer and the tokens so far, in reverse. -/
structure LexState where
  mode : LexMode
  tokens : List Token

/-- The value of a hexadecimal digit. -/
def hexValue? (c : Char) : Option Nat :=
  if '0' ≤ c && c ≤ '9' then some (c.toNat - '0'.toNat)
  else if 'a' ≤ c && c ≤ 'f' then some (c.toNat - 'a'.toNat + 10)
  else if 'A' ≤ c && c ≤ 'F' then some (c.toNat - 'A'.toNat + 10)
  else none

/-- Add a token and go on between tokens. -/
def LexState.emit (state : LexState) (token : Token) : LexState :=
  ⟨.between, token :: state.tokens⟩

/-- A character between tokens. -/
def LexState.stepBetween (state : LexState) (c : Char) : Option LexState :=
  match c with
  | '\x7b' => some (state.emit .openBrace)
  | '\x7d' => some (state.emit .closeBrace)
  | '[' => some (state.emit .openBracket)
  | ']' => some (state.emit .closeBracket)
  | ':' => some (state.emit .colon)
  | ',' => some (state.emit .comma)
  | '"' => some ⟨.string (some []), state.tokens⟩
  | ' ' | '\t' | '\n' | '\r' => some state
  | _ => if isWordChar c then some ⟨.word [c], state.tokens⟩ else none

/-- The character that a letter behind a backslash stands for. -/
def escapedChar? (c : Char) : Option Char :=
  match c with
  | '"' | '\\' | '/' => some c
  | 'b' => some '\x08'
  | 'f' => some '\x0c'
  | 'n' => some '\n'
  | 'r' => some '\r'
  | 't' => some '\t'
  | _ => none

/-- Go on in a string behind one more character. -/
def LexMode.inString (read : Option (List Char)) (c : Char) : LexMode :=
  .string (read.map fun characters => c :: characters)

/-- A complete sixteen-bit unit. Surrogates have to come in pairs, high before low. -/
def LexMode.afterUnit (read : Option (List Char)) (value : Nat) (high : Option Nat) : LexMode :=
  match high with
  | some h =>
    if 0xdc00 ≤ value && value ≤ 0xdfff then
      inString read (Char.ofNat (0x10000 + (h - 0xd800) * 0x400 + (value - 0xdc00)))
    else .string none
  | none =>
    if 0xd800 ≤ value && value ≤ 0xdbff then .pairEscape read value
    else if 0xdc00 ≤ value && value ≤ 0xdfff then .string none
    else inString read (Char.ofNat value)

/-- Close the word that the lexer may stand in. -/
def LexState.endWord (state : LexState) : Option LexState :=
  match state.mode with
  | .word read => (readWord? read.reverse).map fun value => state.emit (.word value)
  | _ => some state

/-- A character inside a string. -/
def LexState.stepString (state : LexState) (read : Option (List Char)) (c : Char) :
    Option LexState :=
  if c = '"' then
    some (state.emit (.string (read.map fun characters => String.ofList characters.reverse)))
  else if c = '\\' then some ⟨.escape read, state.tokens⟩
  else if c.toNat < 0x20 then none
  else some ⟨.inString read c, state.tokens⟩

/-- A character behind a backslash. -/
def LexState.stepEscape (state : LexState) (read : Option (List Char)) (c : Char) :
    Option LexState :=
  if c = 'u' then some ⟨.unit read 4 0 none, state.tokens⟩
  else (escapedChar? c).map fun e => ⟨.inString read e, state.tokens⟩

/-- Consume one character. -/
def LexState.step (state : LexState) (c : Char) : Option LexState :=
  match state.mode with
  | .between => state.stepBetween c
  | .word read =>
    if isWordChar c then some ⟨.word (c :: read), state.tokens⟩
    else state.endWord.bind fun ended => ended.stepBetween c
  | .string read => state.stepString read c
  | .escape read => state.stepEscape read c
  | .unit read missing value high =>
    (hexValue? c).map fun d =>
      let unit := 16 * value + d
      if missing ≤ 1 then ⟨.afterUnit read unit high, state.tokens⟩
      else ⟨.unit read (missing - 1) unit high, state.tokens⟩
  | .pairEscape read high =>
    if c = '\\' then some ⟨.pairUnit read high, state.tokens⟩ else state.stepString none c
  | .pairUnit read high =>
    if c = 'u' then some ⟨.unit read 4 0 (some high), state.tokens⟩ else state.stepEscape none c

/-- The tokens of a text; nothing if a token is malformed or the text ends inside a string. -/
def tokens? (characters : List Char) : Option (List Token) := do
  let last ← characters.foldlM LexState.step ⟨.between, []⟩
  let ended ← last.endWord
  match ended.mode with
  | .between => some ended.tokens.reverse
  | _ => none

end PulseTimeline.Json
