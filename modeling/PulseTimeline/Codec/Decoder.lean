import PulseTimeline.Decimal.Binary64
import PulseTimeline.Json.Basic
import PulseTimeline.Table
import PulseTimeline.Timeline.Basic

set_option autoImplicit false

/-! # Decoding documents

The rules by which documents are read into types. A record is an object with its fields in any
order, in which unknown fields are ignored and known ones may not be repeated, or an array of its
fields in order. A choice is an object with a single member, or a string where there is no content.
A tagged choice is a record with one more field that names the alternative.

No decoder accepts an unreadable document, but the value of an unknown field is not looked at and
may be unreadable. A tagged choice and a document of any form are read as a whole. -/

namespace PulseTimeline

/-- Why a document is refused: it does not have the right form, or it has but describes a timeline
    that cannot be. -/
inductive DecodeError where
  | malformed
  | timeline (error : TimelineError)
  deriving DecidableEq

/-- A decoded value or the reason why there is none. -/
abbrev Decoded (α : Type) := Except DecodeError α

namespace Decode

variable {α : Type}

/-! ## Scalars and lists -/

/-- A string. -/
def string : Json → Decoded String
  | .text value => .ok value
  | _ => .error .malformed

/-- An integer within bounds. -/
def integer (low high : Int) : Json → Decoded Int
  | .int n => if low ≤ n && n ≤ high then .ok n else .error .malformed
  | _ => .error .malformed

/-- A natural number of at most the given number of bits. -/
def natural (bits : Nat) (json : Json) : Decoded Nat := do
  return (← integer 0 (Int.ofNat (1 <<< bits - 1)) json).toNat

/-- An integer of sixty-four bits. -/
def int64 (json : Json) : Decoded Int64 := do
  return Int64.ofInt (← integer Int64.minValue.toInt Int64.maxValue.toInt json)

/-- A double; integers are doubles too. -/
def float : Json → Decoded Float
  | .float x => .ok x
  | .int n => .ok (Binary64.floatOfInt n)
  | _ => .error .malformed

/-- A truth value. -/
def bool : Json → Decoded Bool
  | .bool b => .ok b
  | _ => .error .malformed

/-- A list of values. -/
def list (item : Json → Decoded α) : Json → Decoded (List α)
  | .array items => items.mapM item
  | _ => .error .malformed

/-- A value, or null for none. -/
def option (value : Json → Decoded α) : Json → Decoded (Option α)
  | .null => .ok none
  | json => do return some (← value json)

/-- The members of an object with decoded values, in the order of the document. -/
def members (value : Json → Decoded α) : Json → Decoded (List (String × α))
  | .object entries => entries.mapM fun entry => do return (entry.1, ← value entry.2)
  | _ => .error .malformed

/-- A table. A repeated key keeps its first place and takes its last value. -/
def table (value : Json → Decoded α) (json : Json) : Decoded (Table α) := do
  return Table.ofList (← members value json)

/-- A document of any form, in canonical form. -/
def document (json : Json) : Decoded Json :=
  if json.isReadable then .ok json.canonical else .error .malformed

/-! ## Records -/

/-- The known fields of a record. Fields that are given by position cannot be left out like fields
    that are given by name. -/
structure Fields where
  values : List (String × Json)
  positional : Bool

/-- Whether all keys differ. -/
def keysDiffer : List (String × Json) → Bool
  | [] => true
  | (key, _) :: rest => !(rest.any fun entry => entry.1 == key) && keysDiffer rest

/-- Pick the fields of the given names out of a document. -/
def fields (names : List String) : Json → Decoded Fields
  | .object entries =>
    let known := entries.filter fun entry => names.contains entry.1
    if keysDiffer known then .ok ⟨known, false⟩ else .error .malformed
  | .array items =>
    if items.length ≤ names.length then .ok ⟨names.zip items, true⟩ else .error .malformed
  | _ => .error .malformed

/-- A field that has to be there. -/
def Fields.required (record : Fields) (name : String) (value : Json → Decoded α) : Decoded α :=
  match record.values.lookup name with
  | some json => value json
  | none => .error .malformed

/-- A field that is null or left out if there is no value. -/
def Fields.optional (record : Fields) (name : String) (value : Json → Decoded α) :
    Decoded (Option α) :=
  match record.values.lookup name with
  | some json => option value json
  | none => if record.positional then .error .malformed else .ok none

/-- A field with a value for when it is left out. -/
def Fields.withDefault (record : Fields) (name : String) (fallback : α)
    (value : Json → Decoded α) : Decoded α :=
  match record.values.lookup name with
  | some json => value json
  | none => .ok fallback

/-! ## Choices -/

/-- The name of an alternative and its content. -/
def choice : Json → Decoded (String × Option Json)
  | .text name => .ok (name, none)
  | .object [(name, content)] => .ok (name, some content)
  | _ => .error .malformed

/-- The name of an alternative that has to have content. -/
def choiceWithContent (json : Json) : Decoded (String × Json) := do
  match ← choice json with
  | (name, some content) => .ok (name, content)
  | (_, none) => .error .malformed

/-- The name of an alternative that has no content. -/
def choiceName (json : Json) : Decoded String := do
  match ← choice json with
  | (name, none) => .ok name
  | (name, some .null) => .ok name
  | (_, some _) => .error .malformed

/-- The alternative that a tag names. Inside a document that is itself part of a tagged choice its
    position among the alternatives names it as well. -/
def tagName (alternatives : List String) (nested : Bool) : Json → Decoded String
  | .text name => if alternatives.contains name then .ok name else .error .malformed
  | .int (.ofNat position) =>
    match nested, alternatives[position]? with
    | true, some name => .ok name
    | _, _ => .error .malformed
  | _ => .error .malformed

/-- Take the tag off a tagged choice: its first item or its only member of the tag's name. -/
def takeTag (tag : String) (alternatives : List String) (nested : Bool) :
    Json → Decoded (String × Json)
  | .object entries =>
    match entries.filter fun entry => entry.1 == tag with
    | [(_, name)] => do
      return (← tagName alternatives nested name,
        .object (entries.filter fun entry => entry.1 != tag))
    | _ => .error .malformed
  | .array (name :: rest) => do return (← tagName alternatives nested name, .array rest)
  | _ => .error .malformed

/-- The name of an alternative and its untagged content. The whole choice is read before its tag is
    known, so every part of it has to be readable. -/
def tagged (tag : String) (alternatives : List String) (nested : Bool) (json : Json) :
    Decoded (String × Json) :=
  if json.isReadable then takeTag tag alternatives nested json else .error .malformed

end Decode

end PulseTimeline
