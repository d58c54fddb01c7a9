import PulseTimeline.Json.Basic

set_option autoImplicit false

/-! # The parts of documents

Documents stand inside one another as the items of arrays and the values of members. A law about all
of a document is a property of what stands at one place, asked for `Everywhere`. What stands in an
array or in an object is lower than the array or the object. -/

namespace PulseTimeline.Json

/-! ## Parts -/

/-- The documents directly inside a document. -/
def parts : Json → List Json
  | array items => items
  | object members => members.map Prod.snd
  | _ => []

/-- A property of a document and of all documents inside it. -/
inductive Everywhere (P : Json → Prop) : Json → Prop where
  | intro {json : Json} (here : P json) (inside : ∀ part ∈ json.parts, Everywhere P part) :
    Everywhere P json

/-! ## Heights -/

variable {key : String} {value : Json}

theorem heightItems_le_iff {items : List Json} {n : Nat} :
    heightItems items ≤ n ↔ ∀ item ∈ items, item.height ≤ n := by
  induction items with
  | nil => simp [heightItems]
  | cons first rest ih => rw [heightItems, Nat.max_le, ih, List.forall_mem_cons]

theorem heightMembers_le_iff {members : List (String × Json)} {n : Nat} :
    heightMembers members ≤ n ↔ ∀ member ∈ members, member.2.height ≤ n := by
  induction members with
  | nil => simp [heightMembers]
  | cons first rest ih => rw [heightMembers, Nat.max_le, ih, List.forall_mem_cons]

theorem height_lt_of_mem_items {items : List Json} {item : Json} (h : item ∈ items) :
    item.height < (array items).height := by
  rw [height, Nat.lt_succ_iff]
  exact heightItems_le_iff.1 (Nat.le_refl _) item h

theorem height_lt_of_mem_members {members : List (String × Json)} (h : (key, value) ∈ members) :
    value.height < (object members).height := by
  rw [height, Nat.lt_succ_iff]
  exact heightMembers_le_iff.1 (Nat.le_refl _) (key, value) h

@[simp] theorem height_int (n : Int) : (int n).height = 0 := rfl

@[simp] theorem height_float (x : Float) : (float x).height = 0 := rfl

@[simp] theorem height_text (value : String) : (text value).height = 0 := rfl

theorem height_array_le_iff {items : List Json} {n : Nat} :
    (array items).height ≤ n + 1 ↔ ∀ item ∈ items, item.height ≤ n := by
  rw [height, Nat.succ_le_succ_iff, heightItems_le_iff]

theorem height_object_le_iff {members : List (String × Json)} {n : Nat} :
    (object members).height ≤ n + 1 ↔ ∀ member ∈ members, member.2.height ≤ n := by
  rw [height, Nat.succ_le_succ_iff, heightMembers_le_iff]

theorem height_lt_of_mem_parts {json part : Json} (h : part ∈ json.parts) :
    part.height < json.height := by
  cases json with
  | array items => exact height_lt_of_mem_items h
  | object members =>
      obtain ⟨member, hmember, rfl⟩ := List.mem_map.1 h
      exact height_lt_of_mem_members hmember
  | _ => exact absurd h List.not_mem_nil

/-- Induction over a document by what stands directly inside it. -/
theorem parts_induction {P : Json → Prop}
    (step : ∀ json, (∀ part ∈ json.parts, P part) → P json) (json : Json) : P json :=
  step json fun part _ => parts_induction step part
termination_by json.height
decreasing_by exact height_lt_of_mem_parts ‹_›

/-! ## Readability -/

@[simp] theorem isReadable_int (value : Int) : (int value).isReadable = true := rfl

@[simp] theorem isReadable_float (value : Float) : (float value).isReadable = true := rfl

@[simp] theorem isReadable_text (value : String) : (text value).isReadable = true := rfl

@[simp] theorem isReadable_array_iff {items : List Json} :
    (array items).isReadable = true ↔ ∀ item ∈ items, item.isReadable = true := by
  rw [isReadable]
  induction items with
  | nil => simp [areReadable]
  | cons item rest ih => simp [areReadable, ih]

@[simp] theorem isReadable_object_iff {members : List (String × Json)} :
    (object members).isReadable = true ↔ ∀ member ∈ members, member.2.isReadable = true := by
  rw [isReadable]
  induction members with
  | nil => simp [haveReadableValues]
  | cons member rest ih => simp [haveReadableValues, ih]

end PulseTimeline.Json
