import PulseTimeline.Proofs.Json.Parts

set_option autoImplicit false

/-! # Presentations of documents

A document reaches a decoder as the tree in memory that it is turned into, or as what is read from
its text. Neither has to be the very same document: a tree in memory keeps members in the order of
their keys and has no double that is not finite. A presentation is a way to hand documents over in
which scalars and the order of items stay, and the members of an object are those that it had, in
some order, as long as their keys differ. -/

namespace PulseTimeline.Json

/-- A way to hand documents over that keeps all but the order of members. -/
structure Presents (present : Json → Json) : Prop where
  null : present null = null
  bool : ∀ value, present (bool value) = bool value
  int : ∀ value, present (int value) = int value
  float : ∀ value, value.isFinite = true → present (float value) = float value
  text : ∀ value, present (text value) = text value
  array : ∀ items, present (array items) = array (items.map present)
  object : ∀ members, (members.map Prod.fst).Nodup → ∃ others,
    present (object members) = object others
      ∧ others.Perm (members.map fun member => (member.1, present member.2))

theorem presents_id : Presents id where
  null := rfl
  bool _ := rfl
  int _ := rfl
  float _ _ := rfl
  text _ := rfl
  array items := by rw [id, List.map_id]
  object members _ := ⟨members, rfl, by simp⟩

/-! ## Trees in memory -/

mutual

/-- The tree in memory that a document is turned into: members in the order of their keys, and null
    for a double that is not finite. -/
def inMemory : Json → Json
  | float value => if value.isFinite then float value else null
  | array items => array (inMemoryItems items)
  | object members => object (Sorted.ofEntries (inMemoryMembers members))
  | other => other

/-- The trees that items are turned into. -/
def inMemoryItems : List Json → List Json
  | [] => []
  | item :: rest => inMemory item :: inMemoryItems rest

/-- The trees that the values of members are turned into. -/
def inMemoryMembers : List (String × Json) → List (String × Json)
  | [] => []
  | (key, value) :: rest => (key, inMemory value) :: inMemoryMembers rest

end

theorem inMemoryItems_eq (items : List Json) : inMemoryItems items = items.map inMemory := by
  induction items with
  | nil => rw [inMemoryItems, List.map_nil]
  | cons item rest ih => rw [inMemoryItems, List.map_cons, ih]

theorem inMemoryMembers_eq (members : List (String × Json)) :
    inMemoryMembers members = members.map fun member => (member.1, inMemory member.2) := by
  induction members with
  | nil => rw [inMemoryMembers, List.map_nil]
  | cons member rest ih => rw [inMemoryMembers, List.map_cons, ih]

theorem presents_inMemory : Presents inMemory where
  null := by simp only [inMemory]
  bool _ := by simp only [inMemory]
  int _ := by simp only [inMemory]
  float value h := by rw [inMemory, if_pos h]
  text _ := by simp only [inMemory]
  array items := by rw [inMemory, inMemoryItems_eq]
  object members hnodup := by
    refine ⟨_, by rw [inMemory], ?_⟩
    rw [inMemoryMembers_eq]
    refine Sorted.ofEntries_perm ?_
    rw [List.map_map]
    exact hnodup

/-! ## Heights -/

namespace Presents

variable {present : Json → Json} {members : List (String × Json)} {key : String} {value : Json}

theorem height_lt_item (hp : Presents present) {items : List Json} (h : value ∈ items) :
    (present value).height < (present (.array items)).height := by
  rw [hp.array]
  exact height_lt_of_mem_items (List.mem_map_of_mem h)

theorem height_lt_member (hp : Presents present) (hnodup : (members.map Prod.fst).Nodup)
    (h : (key, value) ∈ members) :
    (present value).height < (present (.object members)).height := by
  obtain ⟨others, hothers, hperm⟩ := hp.object members hnodup
  rw [hothers]
  exact height_lt_of_mem_members (hperm.mem_iff.2 (List.mem_map.2 ⟨_, h, rfl⟩))

end Presents

end PulseTimeline.Json
