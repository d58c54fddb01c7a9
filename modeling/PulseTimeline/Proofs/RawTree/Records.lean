import PulseTimeline.Proofs.Json.Parts
import PulseTimeline.Proofs.RawTree.Grammar
import PulseTimeline.Proofs.RawTree.Spelling

set_option autoImplicit false

/-! # Records as nodes

A record is a node with exactly the fields that were written into it, and what stands in a field is
lower than the record. Fields are read from a record by the rules of the grammar; the laws for the
fields of an entry leave the height to be the only thing to keep track of. -/

namespace PulseTimeline

/-! ## Records -/

namespace Json

variable {fields : List (String × Option Json)} {key : String} {value : Json}

theorem mem_present : (key, value) ∈ present fields ↔ (key, some value) ∈ fields := by
  simp only [present, List.mem_filterMap, Option.map_eq_some_iff, Prod.mk.injEq]
  constructor
  · rintro ⟨⟨key', value'⟩, hmem, found, rfl, rfl, rfl⟩
    exact hmem
  · intro hmem
    exact ⟨_, hmem, value, rfl, rfl, rfl⟩

theorem mem_of_lookup {found : Option Json} (h : fields.lookup key = some found) :
    (key, found) ∈ fields := by
  obtain ⟨before, after, rfl, -⟩ := List.lookup_eq_some_iff.1 h
  exact List.mem_append_right before List.mem_cons_self

theorem lookup_present_of_not_mem (h : key ∉ fields.map Prod.fst) :
    (present fields).lookup key = none := by
  rw [List.lookup_eq_none_iff]
  rintro ⟨key', value⟩ hmem
  rw [bne_iff_ne]
  rintro rfl
  exact h (List.mem_map_of_mem (mem_present.1 hmem))

theorem lookup_present {found : Option Json} (hnodup : (fields.map Prod.fst).Nodup)
    (h : (key, found) ∈ fields) : (present fields).lookup key = found := by
  induction fields with
  | nil => cases h
  | cons field rest ih =>
      obtain ⟨key', found'⟩ := field
      rw [List.map_cons, List.nodup_cons] at hnodup
      rcases List.mem_cons.1 h with heq | hrest
      · cases heq
        cases found with
        | none =>
            have hlookup : (present rest).lookup key = none := lookup_present_of_not_mem hnodup.1
            exact hlookup
        | some value => simp [present]
      · cases found' with
        | none => exact ih hnodup.2 hrest
        | some value =>
            have hne : (key == key') = false := by
              rw [beq_eq_false_iff_ne]
              rintro rfl
              exact hnodup.1 (List.mem_map.2 ⟨_, hrest, rfl⟩)
            have hskip : (present ((key', some value) :: rest)).lookup key
                = (present rest).lookup key := by
              simp [present, List.lookup_cons, hne]
            rw [hskip]
            exact ih hnodup.2 hrest

theorem height_lt_record (key : String) (h : fields.lookup key = some (some value)) :
    value.height < (record fields).height :=
  height_lt_of_mem_members (mem_present.2 (mem_of_lookup h))

theorem height_lt_entry {kind : String} (h : fields.lookup key = some (some value)) :
    value.height + 1 < (entry kind fields).height :=
  Nat.lt_of_le_of_lt (height_lt_record key h) (height_lt_of_mem_members (List.mem_singleton.2 rfl))

end Json

namespace RawTree

/-! ## Nodes of records -/

namespace Node

/-- The node that a record is. -/
def written (kind : String) (fields : List (String × Option Json)) : Node :=
  ⟨kind, Json.present fields⟩

variable {α : Type} {kind key : String} {fields : List (String × Option Json)}
  {recognized : List String} {read : Json → Except TreeError α}

theorem of_record (hkeys : ∀ key ∈ fields.map Prod.fst, key ∈ recognized) :
    Node.of kind (.record fields) recognized = .ok (written kind fields) := by
  refine Node.of_eq_ok_iff.2 ⟨_, rfl, ?_, rfl⟩
  rintro ⟨key, value⟩ hmem
  exact Or.inr (hkeys key (List.mem_map_of_mem (Json.mem_present.1 hmem)))

theorem isEntry_entry {category : String} (hkind : kind ≠ locationKey)
    (hkeys : ∀ key ∈ fields.map Prod.fst, key ∈ recognized) :
    IsEntry category kind recognized (.entry kind fields) (written kind fields) := by
  refine ⟨.record fields, singleEntry_eq_ok_iff.2 ⟨_, rfl, ?_⟩, of_record hkeys⟩
  exact List.filter_cons_of_pos (bne_iff_ne.2 hkind)

theorem optional_written {value : Option Json} (hnodup : (fields.map Prod.fst).Nodup)
    (h : fields.lookup key = some value) (hnull : value ≠ some .null) :
    (written kind fields).optional key = value := by
  unfold optional
  rw [written, Json.lookup_present hnodup (Json.mem_of_lookup h)]
  split
  · exact absurd rfl hnull
  · rfl

theorem optional_written_of_not_mem (h : key ∉ fields.map Prod.fst) :
    (written kind fields).optional key = none := by
  rw [optional, written, Json.lookup_present_of_not_mem h]

theorem reads_written {raw : Json} {value : α} (hnodup : (fields.map Prod.fst).Nodup)
    (h : fields.lookup key = some (some raw)) (hnull : raw ≠ .null) (hread : read raw = .ok value) :
    (written kind fields).Reads key read value :=
  ⟨raw, optional_written hnodup h fun heq => hnull (Option.some.inj heq), hread⟩

theorem readsOptional_written {write : α → Json} {value : Option α}
    (hnodup : (fields.map Prod.fst).Nodup) (h : fields.lookup key = some (value.map write))
    (hnull : ∀ v, write v ≠ .null) (hread : ∀ v ∈ value, read (write v) = .ok v) :
    (written kind fields).ReadsOptional key read value := by
  cases value with
  | none => exact Or.inl ⟨optional_written hnodup h nofun, rfl⟩
  | some v => exact (reads_written hnodup h (hnull v) (hread v rfl)).optional

theorem readsList_written {write : α → Json} {values : List α}
    (hnodup : (fields.map Prod.fst).Nodup)
    (h : fields.lookup key = some (some (.array (values.map write))))
    (hread : ∀ v ∈ values, read (write v) = .ok v) :
    (written kind fields).ReadsList key read values := by
  refine ⟨values.map write, list_eq_ok_iff.2 (Or.inr (optional_written hnodup h nofun)), ?_⟩
  rw [List.forall₂_map_left_iff, List.forall₂_same]
  exact hread

/-! What stands in the fields of an entry is at least two lower than the entry. -/

variable {height : Nat}

theorem reads_inside {raw : Json} {value : α} (hnodup : (fields.map Prod.fst).Nodup)
    (h : fields.lookup key = some (some raw)) (hnull : raw ≠ .null)
    (hheight : (Json.entry kind fields).height ≤ height + 1)
    (hread : raw.height < height → read raw = .ok value) :
    (written kind fields).Reads key read value := by
  have hlower : raw.height + 1 < (Json.entry kind fields).height := Json.height_lt_entry h
  exact reads_written hnodup h hnull (hread (by omega))

theorem readsOptional_inside {write : α → Json} {value : Option α}
    (hnodup : (fields.map Prod.fst).Nodup) (h : fields.lookup key = some (value.map write))
    (hnull : ∀ v, write v ≠ .null) (hheight : (Json.entry kind fields).height ≤ height + 1)
    (hread : ∀ v ∈ value, (write v).height < height → read (write v) = .ok v) :
    (written kind fields).ReadsOptional key read value := by
  refine readsOptional_written hnodup h hnull fun v hv => hread v hv ?_
  have hsome : fields.lookup key = some (some (write v)) := by
    rw [h, Option.mem_def.1 hv, Option.map_some]
  have hlower : (write v).height + 1 < (Json.entry kind fields).height := Json.height_lt_entry hsome
  omega

theorem readsList_inside {write : α → Json} {values : List α}
    (hnodup : (fields.map Prod.fst).Nodup)
    (h : fields.lookup key = some (some (.array (values.map write))))
    (hheight : (Json.entry kind fields).height ≤ height + 1)
    (hread : ∀ v ∈ values, (write v).height < height → read (write v) = .ok v) :
    (written kind fields).ReadsList key read values := by
  refine readsList_written hnodup h fun v hv => hread v hv ?_
  have hitem : (write v).height < (Json.array (values.map write)).height :=
    Json.height_lt_of_mem_items (List.mem_map_of_mem hv)
  have hlower : (Json.array (values.map write)).height + 1 < (Json.entry kind fields).height :=
    Json.height_lt_entry h
  omega

end Node

/-! ## Names -/

theorem nameIn_named (kind name : String) : nameIn kind (.named name) = .ok name := by
  refine nameIn_eq_ok_iff.2 ⟨_, Node.of_record (by simp), ?_⟩
  exact Node.optional_written (by simp) rfl nofun

theorem elements_written {kind : String} {fields : List (String × Option Json)} {alone : Bool}
    {names : List String} (hnodup : (fields.map Prod.fst).Nodup)
    (h : fields.lookup "qe" = some (some (.elements alone names))) :
    elements (Node.written kind fields) = .ok names := by
  rw [elements_eq_ok_iff]
  unfold Json.elements at h
  split at h
  · next name =>
      exact Or.inr ⟨name, Node.reads_written hnodup h nofun (nameIn_named _ _), rfl⟩
  · exact Or.inl (Node.readsList_written hnodup h fun name _ => nameIn_named _ _)

end RawTree

end PulseTimeline
