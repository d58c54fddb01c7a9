import PulseTimeline.Json.Token

set_option autoImplicit false

/-! # Reading JSON

A pushdown automaton over tokens. The stack holds the arrays and objects that are still open; what
may come next is the mode. Text that is not well formed has no document. What is well formed but
cannot be read, such as an array nested deeper than `maxNesting`, is an unreadable part of it. -/

namespace PulseTimeline.Json

/-- How many arrays and objects may stand inside one another if the innermost is to be read. -/
def maxNesting : Nat := 127

/-- An open array or object, with what it holds so far in reverse; nothing if it cannot be read. -/
inductive Frame where
  | array (items : Option (List Json))
  | object (members : Option (List (String × Json)))
  /-- An object whose last key still waits for its value. -/
  | entry (members : Option (List (String × Json))) (key : Option String)

/-- What may come next. -/
inductive ReadMode where
  | value
  /-- A value, or the end of an array that has no items yet. -/
  | valueOrEnd
  | key
  /-- A key, or the end of an object that has no members yet. -/
  | keyOrEnd
  | colon
  /-- A comma, or the end of the innermost array or object. -/
  | separator
  | done (document : Json)

/-- The mode of the reader and its stack, innermost frame first. -/
structure ReadState where
  mode : ReadMode
  stack : List Frame

/-- Put a finished value where it belongs. -/
def ReadState.finish (value : Json) : List Frame → Option ReadState
  | [] => some ⟨.done value, []⟩
  | .array items :: rest =>
    some ⟨.separator, .array (items.map fun before => value :: before) :: rest⟩
  | .entry members key :: rest =>
    let extended := members.bind fun before => key.map fun name => (name, value) :: before
    some ⟨.separator, .object extended :: rest⟩
  | .object _ :: _ => none

/-- What a newly opened array or object holds: an empty list, or nothing if it is nested too deep. -/
def ReadState.opened (state : ReadState) {α : Type} : Option (List α) :=
  if state.stack.length < maxNesting then some [] else none

/-- The document that a closed array or object is. -/
def closed {α : Type} (build : List α → Json) : Option (List α) → Json
  | some contents => build contents.reverse
  | none => unreadable

/-- A token where a value is expected. -/
def ReadState.stepValue (state : ReadState) (token : Token) : Option ReadState :=
  match token with
  | .openBrace => some ⟨.keyOrEnd, .object state.opened :: state.stack⟩
  | .openBracket => some ⟨.valueOrEnd, .array state.opened :: state.stack⟩
  | .word value => ReadState.finish value state.stack
  | .string (some value) => ReadState.finish (text value) state.stack
  | .string none => ReadState.finish unreadable state.stack
  | _ => none

/-- A token where the innermost frame may be closed. -/
def ReadState.stepEnd (state : ReadState) (token : Token) : Option ReadState :=
  match token, state.stack with
  | .closeBracket, .array items :: rest => ReadState.finish (closed array items) rest
  | .closeBrace, .object members :: rest => ReadState.finish (closed object members) rest
  | _, _ => none

/-- A token where a key is expected. -/
def ReadState.stepKey (state : ReadState) (token : Token) : Option ReadState :=
  match token, state.stack with
  | .string key, .object members :: rest => some ⟨.colon, .entry members key :: rest⟩
  | _, _ => none

/-- Consume one token. -/
def ReadState.step (state : ReadState) (token : Token) : Option ReadState :=
  match state.mode with
  | .value => state.stepValue token
  | .valueOrEnd =>
    match token with
    | .closeBracket => state.stepEnd token
    | _ => state.stepValue token
  | .key => state.stepKey token
  | .keyOrEnd =>
    match token with
    | .closeBrace => state.stepEnd token
    | _ => state.stepKey token
  | .colon =>
    match token with
    | .colon => some { state with mode := .value }
    | _ => none
  | .separator =>
    match token, state.stack with
    | .comma, .array _ :: _ => some { state with mode := .value }
    | .comma, .object _ :: _ => some { state with mode := .key }
    | _, _ => state.stepEnd token
  | .done _ => none

/-- The document that a list of tokens spells. -/
def ofTokens? (tokens : List Token) : Option Json := do
  let last ← tokens.foldlM ReadState.step ⟨.value, []⟩
  match last.mode with
  | .done document => some document
  | _ => none

/-- The document that a text spells. Parts of it may be unreadable. -/
def read? (source : String) : Option Json := do
  ofTokens? (← tokens? source.toList)

/-- The document that a text spells, if every part of it can be read. -/
def readWhole? (source : String) : Option Json :=
  (read? source).filter isReadable

end PulseTimeline.Json
