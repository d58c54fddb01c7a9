import PulseTimeline.Sorted

set_option autoImplicit false

/-! # JSON documents

A document keeps integers apart from doubles and its members in the order in which they were
written, repeated keys included. `canonical` is the form in which order and repetition no longer
show: members sorted by key, the last of a repeated key.

A text may hold values that are well formed and yet cannot be read. They do no harm where nothing
reads them, so a document has room for them; `isReadable` says that it has none. -/

namespace PulseTimeline

/-- A JSON document. -/
inductive Json where
  | null
  | bool (value : Bool)
  | int (value : Int)
  | float (value : Float)
  | text (value : String)
  | array (items : List Json)
  | object (members : List (String × Json))
  /-- A well-formed value that cannot be read: a number beyond the largest double, a string in which
      half of a surrogate pair stands alone, an object with such a string for a key, or an array or
      object that is nested too deep. -/
  | unreadable

namespace Json

instance : Inhabited Json := ⟨null⟩

/-- The value of the first member called `key`; nothing if there is none, or no members at all. -/
def member? (json : Json) (key : String) : Option Json :=
  match json with
  | object members => members.lookup key
  | _ => none

mutual

/-- Sort the members of every object by key and drop all but the last of a repeated key. -/
def canonical : Json → Json
  | array items => array (canonicalItems items)
  | object members => object (Sorted.ofEntries (canonicalMembers members))
  | other => other

/-- Canonical forms of a list of documents. -/
def canonicalItems : List Json → List Json
  | [] => []
  | item :: rest => canonical item :: canonicalItems rest

/-- Canonical forms of the values of members. -/
def canonicalMembers : List (String × Json) → List (String × Json)
  | [] => []
  | (key, value) :: rest => (key, canonical value) :: canonicalMembers rest

end

mutual

/-- Whether every part of a document can be read. -/
def isReadable : Json → Bool
  | unreadable => false
  | array items => areReadable items
  | object members => haveReadableValues members
  | _ => true

/-- Whether every part of every document can be read. -/
def areReadable : List Json → Bool
  | [] => true
  | item :: rest => isReadable item && areReadable rest

/-- Whether every part of the values of members can be read. -/
def haveReadableValues : List (String × Json) → Bool
  | [] => true
  | (_, value) :: rest => isReadable value && haveReadableValues rest

end

mutual

/-- How many arrays and objects stand inside one another; scalars have height zero. -/
def height : Json → Nat
  | array items => heightItems items + 1
  | object members => heightMembers members + 1
  | _ => 0

/-- The greatest height among documents. -/
def heightItems : List Json → Nat
  | [] => 0
  | item :: rest => max (height item) (heightItems rest)

/-- The greatest height among the values of members. -/
def heightMembers : List (String × Json) → Nat
  | [] => 0
  | (_, value) :: rest => max (height value) (heightMembers rest)

end

end Json

end PulseTimeline
