set_option autoImplicit false

/-! # Insertion-ordered tables

A `Table α` files values under names. Each name occurs once, and names keep the order of their
first insertion: writing to a name that is already present replaces the value where it stands.
`find?` is the view through which every operation is described. -/

namespace PulseTimeline

/-- A finite map from names that remembers the order in which the names arrived. -/
@[ext] structure Table (α : Type) where
  /-- The entries, oldest name first. -/
  entries : List (String × α)
  /-- No name is filed twice. -/
  nodup_keys : (entries.map Prod.fst).Nodup
  deriving DecidableEq

namespace Table

variable {α β : Type}

/-- The table without entries. -/
def empty : Table α := ⟨[], List.nodup_nil⟩

instance : Inhabited (Table α) := ⟨empty⟩

/-- The names, oldest first. -/
def keys (t : Table α) : List String := t.entries.map Prod.fst

/-- The values, in the order of their names. -/
def values (t : Table α) : List α := t.entries.map Prod.snd

/-- The number of names. -/
def size (t : Table α) : Nat := t.entries.length

/-- The value filed under `name`. -/
def find? (t : Table α) (name : String) : Option α := t.entries.lookup name

/-- Whether `name` is filed. -/
def contains (t : Table α) (name : String) : Bool := (t.find? name).isSome

/-! ## Looking up in a list of entries -/

theorem lookup_eq_none_iff (entries : List (String × α)) (name : String) :
    entries.lookup name = none ↔ name ∉ entries.map Prod.fst := by
  induction entries with
  | nil => simp
  | cons e rest ih =>
      obtain ⟨k, v⟩ := e
      by_cases h : name = k
      · simp [h]
      · simp [List.lookup_cons, h, ih, beq_eq_false_iff_ne.mpr h]

/-- An entry is found under its name. -/
theorem find?_eq_some_iff (t : Table α) (name : String) (value : α) :
    t.find? name = some value ↔ (name, value) ∈ t.entries := by
  obtain ⟨entries, hnodup⟩ := t
  simp only [find?]
  induction entries with
  | nil => simp
  | cons e rest ih =>
      obtain ⟨k, v⟩ := e
      rw [List.map_cons, List.nodup_cons] at hnodup
      by_cases h : name = k
      · subst h
        have habsent : (name, value) ∉ rest := fun hmem =>
          hnodup.1 (List.mem_map.2 ⟨_, hmem, rfl⟩)
        simp [habsent, eq_comm]
      · simp [List.lookup_cons, h, beq_eq_false_iff_ne.mpr h, ih hnodup.2]

/-! ## Writing -/

/-- Replace the value of every entry called `name`. -/
def replaceIn (name : String) (value : α) (entries : List (String × α)) : List (String × α) :=
  entries.map fun e => if e.1 = name then (e.1, value) else e

theorem map_fst_replaceIn (name : String) (value : α) (entries : List (String × α)) :
    (replaceIn name value entries).map Prod.fst = entries.map Prod.fst := by
  induction entries with
  | nil => rfl
  | cons e rest ih =>
      simp only [replaceIn, List.map_cons] at ih ⊢
      rw [ih]
      split <;> rfl

/-- File `value` under `name`: in the place of the old value, or at the end for a new name. -/
def insert (t : Table α) (name : String) (value : α) : Table α :=
  if h : t.find? name = none then
    ⟨t.entries ++ [(name, value)], by
      have hn := (lookup_eq_none_iff t.entries name).1 h
      simp only [List.map_append, List.map_cons, List.map_nil]
      refine List.nodup_append.2 ⟨t.nodup_keys, by simp, ?_⟩
      intro a ha b hb
      simp only [List.mem_singleton] at hb
      exact fun hab => hn (hb ▸ hab ▸ ha)⟩
  else
    ⟨replaceIn name value t.entries, by rw [map_fst_replaceIn]; exact t.nodup_keys⟩

/-- File the pairs one after the other, so that the last value of a repeated name wins. -/
def ofList (pairs : List (String × α)) : Table α :=
  pairs.foldl (fun t e => t.insert e.1 e.2) empty

/-! ## What a write does -/

theorem lookup_replaceIn (name other : String) (value : α) (entries : List (String × α)) :
    (replaceIn name value entries).lookup other =
      if other = name then (entries.lookup other).map fun _ => value
      else entries.lookup other := by
  induction entries with
  | nil => simp [replaceIn]
  | cons e rest ih =>
      obtain ⟨k, v⟩ := e
      simp only [replaceIn, List.map_cons] at ih ⊢
      by_cases hk : k = name <;> by_cases ho : other = k
      · subst hk; subst ho; simp
      · subst hk
        simp [List.lookup_cons, ho, beq_eq_false_iff_ne.mpr ho, ih]
      · subst ho
        simp [hk]
      · simp [List.lookup_cons, hk, beq_eq_false_iff_ne.mpr ho, ih]

@[simp] theorem find?_insert_self (t : Table α) (name : String) (value : α) :
    (t.insert name value).find? name = some value := by
  unfold insert
  split
  · next h =>
      have hnone : t.entries.lookup name = none := h
      simp [find?, List.lookup_append, hnone]
  · next h =>
      have hsome : t.entries.lookup name ≠ none := h
      obtain ⟨v, hv⟩ := Option.ne_none_iff_exists'.1 hsome
      simp [find?, lookup_replaceIn, hv]

theorem find?_insert_of_ne (t : Table α) {name other : String} (value : α)
    (hne : other ≠ name) : (t.insert name value).find? other = t.find? other := by
  unfold insert
  split
  · simp [find?, List.lookup_append, List.lookup_cons, beq_eq_false_iff_ne.mpr hne]
  · simp [find?, lookup_replaceIn, hne]

theorem keys_insert_of_mem (t : Table α) (name : String) (value : α)
    (h : t.find? name ≠ none) : (t.insert name value).keys = t.keys := by
  simp [insert, h, keys, map_fst_replaceIn]

theorem keys_insert_of_not_mem (t : Table α) (name : String) (value : α)
    (h : t.find? name = none) : (t.insert name value).keys = t.keys ++ [name] := by
  simp [insert, h, keys]

/-- Names keep their places, and a new one comes last. -/
theorem keys_prefix_insert (t : Table α) (name : String) (value : α) :
    t.keys <+: (t.insert name value).keys := by
  by_cases h : t.find? name = none
  · exact ⟨[name], (t.keys_insert_of_not_mem name value h).symm⟩
  · exact ⟨[], by rw [List.append_nil, t.keys_insert_of_mem name value h]⟩

theorem mem_keys_iff (t : Table α) (name : String) : name ∈ t.keys ↔ t.find? name ≠ none := by
  rw [find?, Ne, lookup_eq_none_iff, Decidable.not_not]
  rfl

/-! ## Writing to one name again -/

theorem replaceIn_of_not_mem (name : String) (value : α) (entries : List (String × α))
    (h : name ∉ entries.map Prod.fst) : replaceIn name value entries = entries := by
  have hsame : ∀ e ∈ entries, (if e.1 = name then (e.1, value) else e) = e := by
    intro e he
    exact if_neg fun heq => h (List.mem_map.2 ⟨e, he, heq⟩)
  rw [replaceIn, List.map_congr_left hsame, List.map_id']

theorem replaceIn_lookup (name : String) (value : α) (entries : List (String × α))
    (hnodup : (entries.map Prod.fst).Nodup) (h : entries.lookup name = some value) :
    replaceIn name value entries = entries := by
  induction entries with
  | nil => rfl
  | cons e rest ih =>
      obtain ⟨k, v⟩ := e
      rw [List.map_cons, List.nodup_cons] at hnodup
      by_cases hk : k = name
      · subst hk
        have hv : v = value := by simpa using h
        have hrest := replaceIn_of_not_mem k value rest hnodup.1
        simp only [replaceIn] at hrest
        simp [replaceIn, hv, hrest]
      · have hlookup : rest.lookup name = some value := by
          simpa [List.lookup_cons, beq_eq_false_iff_ne.mpr (Ne.symm hk)] using h
        have hrest := ih hnodup.2 hlookup
        simp only [replaceIn] at hrest
        simp [replaceIn, hk, hrest]

/-- Writing the value that stands there changes nothing. -/
theorem insert_eq_self (t : Table α) (name : String) (value : α)
    (h : t.find? name = some value) : t.insert name value = t := by
  have hentries := replaceIn_lookup name value t.entries t.nodup_keys h
  ext1
  simp [insert, h, hentries]

/-- Of two writes to one name the last counts. -/
@[simp] theorem insert_insert (t : Table α) (name : String) (value other : α) :
    (t.insert name value).insert name other = t.insert name other := by
  ext1
  have hsome : (t.insert name value).find? name ≠ none := by simp
  cases hfind : t.find? name with
  | none =>
      have habsent := (lookup_eq_none_iff t.entries name).1 hfind
      have hold := replaceIn_of_not_mem name other t.entries habsent
      simp only [replaceIn] at hold
      rw [insert, dif_neg hsome]
      simp [insert, hfind, replaceIn, hold]
  | some old =>
      rw [insert, dif_neg hsome]
      have hwrites : ∀ e ∈ t.entries,
          (if (if e.1 = name then (e.1, value) else e).1 = name
            then ((if e.1 = name then (e.1, value) else e).1, other)
            else if e.1 = name then (e.1, value) else e)
          = if e.1 = name then (e.1, other) else e := by
        intro e he
        by_cases hk : e.1 = name <;> simp [hk]
      simp only [insert, hfind, reduceCtorEq, dite_false, replaceIn, List.map_map]
      exact List.map_congr_left hwrites

/-! ## Tables from their entries -/

theorem entries_insert_of_not_mem (t : Table α) (name : String) (value : α)
    (h : name ∉ t.keys) : (t.insert name value).entries = t.entries ++ [(name, value)] := by
  have hnone : t.find? name = none := (lookup_eq_none_iff t.entries name).2 h
  simp [insert, hnone]

theorem entries_foldl_insert (pairs : List (String × α)) (t : Table α)
    (h : (t.keys ++ pairs.map Prod.fst).Nodup) :
    (pairs.foldl (fun t e => t.insert e.1 e.2) t).entries = t.entries ++ pairs := by
  induction pairs generalizing t with
  | nil => simp
  | cons e rest ih =>
      obtain ⟨name, value⟩ := e
      have habsent : name ∉ t.keys := by
        intro hmem
        exact (List.nodup_append.1 h).2.2 name hmem name List.mem_cons_self rfl
      have hentries := t.entries_insert_of_not_mem name value habsent
      have hkeys : (t.insert name value).keys = t.keys ++ [name] := by simp [keys, hentries]
      rw [List.foldl_cons, ih (t.insert name value) (by simpa [hkeys] using h), hentries]
      simp

/-- Filing the entries of a table one after the other makes the same table. -/
theorem ofList_entries (t : Table α) : ofList t.entries = t := by
  have hkeys : ((empty : Table α).keys ++ t.entries.map Prod.fst).Nodup := t.nodup_keys
  ext1
  exact entries_foldl_insert t.entries empty hkeys

/-- A name that is not there yet is the first of the new ones. -/
theorem eraseDups_removeAll_cons {name : String} {names : List String} (h : name ∉ names)
    (added : List String) : ((name :: added).removeAll names).eraseDups
      = name :: (added.removeAll (names ++ [name])).eraseDups := by
  have hothers : (added.removeAll names).filter (fun other => !other == name)
      = added.removeAll (names ++ [name]) := by
    simp only [List.removeAll, List.filter_filter]
    refine List.filter_congr fun other _ => ?_
    by_cases heq : other = name <;> simp [heq]
  have hnew : (name :: added).removeAll names = name :: added.removeAll names := by
    simp [List.removeAll, h]
  rw [hnew, List.eraseDups_cons, hothers]

theorem keys_foldl_insert (pairs : List (String × α)) (t : Table α) :
    (pairs.foldl (fun t e => t.insert e.1 e.2) t).keys
      = t.keys ++ ((pairs.map Prod.fst).removeAll t.keys).eraseDups := by
  induction pairs generalizing t with
  | nil => simp
  | cons e rest ih =>
      obtain ⟨name, value⟩ := e
      rw [List.foldl_cons, ih, List.map_cons]
      by_cases hpresent : name ∈ t.keys
      · -- The name keeps its place and is not new.
        have hkeys := t.keys_insert_of_mem name value ((t.mem_keys_iff name).1 hpresent)
        simp [hkeys, List.removeAll, hpresent]
      · -- The name comes last, and is not new where it occurs again.
        have hunbound : t.find? name = none := (lookup_eq_none_iff t.entries name).2 hpresent
        have hkeys := t.keys_insert_of_not_mem name value hunbound
        rw [hkeys, eraseDups_removeAll_cons hpresent, List.append_assoc, List.singleton_append]

/-- Names stand in the order in which they first occur. -/
theorem keys_ofList (pairs : List (String × α)) :
    (ofList pairs).keys = (pairs.map Prod.fst).eraseDups := by
  simpa [ofList, empty, keys] using keys_foldl_insert pairs empty

theorem find?_foldl_insert (pairs : List (String × α)) (t : Table α) (name : String) :
    (pairs.foldl (fun t e => t.insert e.1 e.2) t).find? name
      = (pairs.reverse.lookup name).or (t.find? name) := by
  induction pairs generalizing t with
  | nil => simp
  | cons e rest ih =>
      obtain ⟨added, value⟩ := e
      rw [List.foldl_cons, ih, List.reverse_cons, List.lookup_append, Option.or_assoc]
      by_cases heq : name = added
      · subst heq
        simp
      · rw [find?_insert_of_ne t value heq]
        simp [List.lookup_cons, beq_eq_false_iff_ne.mpr heq]

/-- Of several values for one name the last counts. -/
theorem find?_ofList (pairs : List (String × α)) (name : String) :
    (ofList pairs).find? name = pairs.reverse.lookup name := by
  rw [ofList, find?_foldl_insert]
  exact Option.or_none

end Table

end PulseTimeline
