import PulseTimeline.Codec.Value
import PulseTimeline.Proofs.Computation
import PulseTimeline.Proofs.Json.Presentation

set_option autoImplicit false

/-! # Decoding presented documents

However a document is presented, its records have their fields, its choices their alternatives and
its lists their items. So a decoder that reads back what stands in a document reads back the
document. -/

namespace PulseTimeline

namespace Decode

variable {α : Type} {present : Json → Json} {members : List (String × Json)} {names : List String}

/-! ## Looking up fields -/

theorem keysDiffer_of_nodup {entries : List (String × Json)}
    (h : (entries.map Prod.fst).Nodup) : keysDiffer entries = true := by
  induction entries with
  | nil => rfl
  | cons entry rest ih =>
      obtain ⟨key, value⟩ := entry
      rw [List.map_cons, List.nodup_cons] at h
      have habsent : (rest.any fun other => other.1 == key) = false := by
        rw [List.any_eq_false]
        intro other hother heq
        exact h.1 (List.mem_map.2 ⟨other, hother, by simpa using heq⟩)
      rw [keysDiffer, habsent, ih h.2]
      rfl

theorem lookup_of_mem {entries : List (String × Json)} {key : String} {value : Json}
    (hnodup : (entries.map Prod.fst).Nodup) (h : (key, value) ∈ entries) :
    entries.lookup key = some value :=
  (Table.find?_eq_some_iff ⟨entries, hnodup⟩ key value).2 h

/-- A record that has been read from a presented object: its fields are the members of the object,
    as they are presented, and they are lower than the object. -/
def Fields.Shows (record : Fields) (present : Json → Json) (members : List (String × Json)) :
    Prop :=
  ∀ key value, members.lookup key = some value → record.values.lookup key = some (present value)
    ∧ (present value).height < (present (.object members)).height

/-- An object with known and different keys is read as the record of its members. -/
theorem fields_bind (hp : Json.Presents present) (hnodup : (members.map Prod.fst).Nodup)
    (hnames : ∀ key ∈ members.map Prod.fst, key ∈ names) {f : Fields → Decoded α}
    {result : Decoded α} (h : ∀ record, record.Shows present members → f record = result) :
    (fields names (present (.object members)) >>= f) = result := by
  obtain ⟨others, hothers, hperm⟩ := hp.object members hnodup
  have hkeys : (others.map Prod.fst).Perm (members.map Prod.fst) := by
    have hmapped := hperm.map Prod.fst
    rwa [List.map_map] at hmapped
  have hdiffer : (others.map Prod.fst).Nodup := hkeys.nodup_iff.2 hnodup
  have hknown : others.filter (fun entry => names.contains entry.1) = others := by
    refine List.filter_eq_self.2 fun entry hentry => ?_
    have hkey := hkeys.mem_iff.1 (List.mem_map_of_mem hentry)
    simpa using hnames _ hkey
  have hread : fields names (present (.object members)) = .ok ⟨others, false⟩ := by
    rw [hothers, fields, hknown, keysDiffer_of_nodup hdiffer]
    rfl
  rw [hread, ok_bind]
  refine h _ fun key value hlookup => ?_
  obtain ⟨before, after, rfl, -⟩ := List.lookup_eq_some_iff.1 hlookup
  have hmem : (key, value) ∈ before ++ (key, value) :: after :=
    List.mem_append_right before List.mem_cons_self
  refine ⟨lookup_of_mem hdiffer ?_, hp.height_lt_member hnodup hmem⟩
  exact hperm.mem_iff.2 (List.mem_map.2 ⟨(key, value), hmem, rfl⟩)

section

variable {record : Fields} {value : Json}

theorem Fields.Shows.height_lt (h : record.Shows present members) (key : String)
    (hkey : members.lookup key = some value) :
    (present value).height < (present (.object members)).height :=
  (h key value hkey).2

variable {key : String} (h : record.Shows present members) (hkey : members.lookup key = some value)

include h hkey

theorem Fields.Shows.required (read : Json → Decoded α) :
    record.required key read = read (present value) := by
  rw [Fields.required, (h key value hkey).1]

theorem Fields.Shows.optional (read : Json → Decoded α) :
    record.optional key read = option read (present value) := by
  rw [Fields.optional, (h key value hkey).1]

end

/-! ## Choices -/

/-- An object with a single member is presented as one. -/
theorem present_single (hp : Json.Presents present) (name : String) (content : Json) :
    present (.object [(name, content)]) = .object [(name, present content)] := by
  obtain ⟨others, hothers, hperm⟩ := hp.object [(name, content)] (by simp)
  rw [hothers, List.perm_singleton.1 hperm]

theorem choiceWithContent_present (hp : Json.Presents present) (name : String) (content : Json) :
    choiceWithContent (present (.object [(name, content)])) = .ok (name, present content) := by
  rw [present_single hp]
  rfl

theorem height_lt_choice (hp : Json.Presents present) (name : String) (content : Json) :
    (present content).height < (present (.object [(name, content)])).height :=
  hp.height_lt_member (by simp) (List.mem_singleton.2 rfl)

theorem height_lt_of_choice (hp : Json.Presents present) {name : String} {content : Json} {n : Nat}
    (h : (present (.object [(name, content)])).height ≤ n) : (present content).height < n :=
  Nat.lt_of_lt_of_le (height_lt_choice hp name content) h

theorem height_le_of_choice (hp : Json.Presents present) {name : String} {content : Json} {n : Nat}
    (h : (present (.object [(name, content)])).height ≤ n) : (present content).height ≤ n :=
  Nat.le_of_lt (height_lt_of_choice hp h)

theorem choiceName_present (hp : Json.Presents present) (name : String) :
    choiceName (present (.text name)) = .ok name := by
  rw [hp.text]
  rfl

/-! ## What stands in fields -/

theorem string_present (hp : Json.Presents present) (value : String) :
    string (present (.text value)) = .ok value := by
  rw [hp.text, string]

theorem list_present (hp : Json.Presents present) {read : Json → Decoded α} {write : α → Json}
    {values : List α} (h : ∀ value ∈ values, read (present (write value)) = .ok value) :
    list read (present (.array (values.map write))) = .ok values := by
  rw [hp.array, list, List.map_map, mapM_eq_ok_iff_forall₂, List.forall₂_map_left_iff,
    List.forall₂_same]
  exact h

/-- What is written for a value that is there must not be taken for an absent one. -/
theorem option_present (hp : Json.Presents present) {read : Json → Decoded α} {write : α → Json}
    {value : Option α} (hnull : ∀ a ∈ value, present (write a) ≠ .null)
    (h : ∀ a ∈ value, read (present (write a)) = .ok a) :
    option read (present (Json.ofOption write value)) = .ok value := by
  cases value with
  | none =>
      rw [Json.ofOption, hp.null]
      rfl
  | some a =>
      have hthere := hnull a rfl
      rw [Json.ofOption]
      unfold option
      split
      · next heq => exact absurd heq hthere
      · rw [h a rfl]
        rfl

theorem present_choice_ne_null (hp : Json.Presents present) (name : String) (content : Json) :
    present (.object [(name, content)]) ≠ .null := by
  rw [present_single hp]
  simp

end Decode

end PulseTimeline
