set_option autoImplicit false

/-! # Sorted lists of keys and of entries

Sets and maps kept as strictly increasing lists, so that two of them with the same content are
the same list, however they were filled. Texts compare by code points. -/

namespace PulseTimeline.Sorted

variable {α : Type}

/-- Put `n` into an increasing list; a number that is there already stays single. -/
def insertNumber (n : Nat) : List Nat → List Nat
  | [] => [n]
  | m :: rest =>
    if n < m then n :: m :: rest
    else if n = m then m :: rest
    else m :: insertNumber n rest

/-- Change the value under `key`, which is absent before its first write, keeping the entries
    in the order of their keys. -/
def alter (key : String) (f : Option α → α) : List (String × α) → List (String × α)
  | [] => [(key, f none)]
  | (k, v) :: rest =>
    if key < k then (key, f none) :: (k, v) :: rest
    else if key = k then (k, f (some v)) :: rest
    else (k, v) :: alter key f rest

/-- File `value` under `key`, over any value that stood there. -/
def insert (key : String) (value : α) (entries : List (String × α)) : List (String × α) :=
  alter key (fun _ => value) entries

/-- Sort entries by key; the last entry of a repeated key wins. -/
def ofEntries (entries : List (String × α)) : List (String × α) :=
  entries.foldl (fun sorted e => insert e.1 e.2 sorted) []

/-! ## Order -/

/-- The keys of the entries are strictly increasing. -/
def Increasing (entries : List (String × α)) : Prop := entries.Pairwise fun a b => a.1 < b.1

instance (entries : List (String × α)) : Decidable (Increasing entries) :=
  inferInstanceAs (Decidable (entries.Pairwise _))

theorem lt_of_not_lt_of_ne {a b : String} (hlt : ¬ a < b) (hne : a ≠ b) : b < a := by
  by_cases h : b < a
  · exact h
  · exact absurd (String.le_antisymm (String.not_lt.1 h) (String.not_lt.1 hlt)) hne

theorem mem_insertNumber (n m : Nat) (numbers : List Nat) :
    m ∈ insertNumber n numbers ↔ m = n ∨ m ∈ numbers := by
  induction numbers with
  | nil => simp [insertNumber]
  | cons k rest ih =>
      rw [insertNumber]
      split
      · simp
      · split
        · next heq => simp [heq]
        · simp only [List.mem_cons, ih]
          exact or_left_comm

theorem insertNumber_increasing (n : Nat) (numbers : List Nat)
    (h : numbers.Pairwise (· < ·)) : (insertNumber n numbers).Pairwise (· < ·) := by
  induction numbers with
  | nil => simp [insertNumber]
  | cons k rest ih =>
      have hk := List.pairwise_cons.1 h
      rw [insertNumber]
      split
      · next hlt =>
          refine List.pairwise_cons.2 ⟨?_, h⟩
          intro m hm
          rcases List.mem_cons.1 hm with rfl | hm
          · exact hlt
          · exact Nat.lt_trans hlt (hk.1 m hm)
      · split
        · exact h
        · next hlt hne =>
            refine List.pairwise_cons.2 ⟨?_, ih hk.2⟩
            intro m hm
            rcases (mem_insertNumber n m rest).1 hm with rfl | hm
            · omega
            · exact hk.1 m hm

/-- An entry of a changed list is the written one or stood there before. -/
theorem mem_alter (key : String) (f : Option α → α) (entries : List (String × α))
    (e : String × α) (h : e ∈ alter key f entries) :
    (∃ old, e = (key, f old) ∧ ∀ v, old = some v → (key, v) ∈ entries) ∨ e ∈ entries := by
  induction entries with
  | nil =>
      simp only [alter, List.mem_singleton] at h
      exact Or.inl ⟨none, h, by simp⟩
  | cons entry rest ih =>
      obtain ⟨k, v⟩ := entry
      simp only [alter] at h
      split at h
      · rcases List.mem_cons.1 h with rfl | h
        · exact Or.inl ⟨none, rfl, by simp⟩
        · exact Or.inr h
      · split at h
        · next heq =>
            subst heq
            rcases List.mem_cons.1 h with rfl | h
            · exact Or.inl ⟨some v, rfl, by simp⟩
            · exact Or.inr (List.mem_cons_of_mem _ h)
        · rcases List.mem_cons.1 h with rfl | h
          · exact Or.inr (List.mem_cons_self ..)
          · rcases ih h with ⟨old, he, hold⟩ | h
            · exact Or.inl ⟨old, he, fun w hw => List.mem_cons_of_mem _ (hold w hw)⟩
            · exact Or.inr (List.mem_cons_of_mem _ h)

theorem alter_increasing (key : String) (f : Option α → α) (entries : List (String × α))
    (h : Increasing entries) : Increasing (alter key f entries) := by
  induction entries with
  | nil => simp [Increasing, alter]
  | cons entry rest ih =>
      obtain ⟨k, v⟩ := entry
      have hk := List.pairwise_cons.1 h
      rw [alter]
      split
      · next hlt =>
          refine List.pairwise_cons.2 ⟨?_, h⟩
          intro e he
          rcases List.mem_cons.1 he with rfl | he
          · exact hlt
          · exact String.lt_trans hlt (hk.1 e he)
      · split
        · exact List.pairwise_cons.2 hk
        · next hlt hne =>
            refine List.pairwise_cons.2 ⟨?_, ih hk.2⟩
            intro e he
            rcases mem_alter key f rest e he with ⟨old, rfl, -⟩ | he
            · exact lt_of_not_lt_of_ne hlt hne
            · exact hk.1 e he

theorem Increasing.nodup_keys {entries : List (String × α)} (h : Increasing entries) :
    (entries.map Prod.fst).Nodup := by
  refine List.pairwise_map.2 (List.Pairwise.imp ?_ h)
  intro a b hab
  exact String.ne_of_lt hab

/-- In an increasing list an entry is found under its key. -/
theorem lookup_eq_some_iff {entries : List (String × α)} (h : Increasing entries) (key : String)
    (value : α) : entries.lookup key = some value ↔ (key, value) ∈ entries := by
  induction entries with
  | nil => simp
  | cons entry rest ih =>
      obtain ⟨k, v⟩ := entry
      have hk := List.pairwise_cons.1 h
      by_cases heq : key = k
      · subst heq
        have hrest : (key, value) ∉ rest := fun hm => String.lt_irrefl key (hk.1 _ hm)
        simp [hrest, eq_comm]
      · simp [List.lookup_cons, beq_eq_false_iff_ne.mpr heq, heq, ih hk.2]

/-! ## Nothing is lost -/

theorem alter_perm {key : String} {entries : List (String × α)} (f : Option α → α)
    (h : key ∉ entries.map Prod.fst) : (alter key f entries).Perm ((key, f none) :: entries) := by
  induction entries with
  | nil => exact .refl _
  | cons entry rest ih =>
      obtain ⟨k, v⟩ := entry
      rw [List.map_cons, List.mem_cons, not_or] at h
      rw [alter]
      split
      · exact .refl _
      · rw [if_neg h.1]
        exact ((ih h.2).cons (k, v)).trans (.swap _ _ _)

theorem foldl_insert_perm {entries sorted : List (String × α)}
    (h : ((sorted ++ entries).map Prod.fst).Nodup) :
    (entries.foldl (fun sorted e => insert e.1 e.2 sorted) sorted).Perm (sorted ++ entries) := by
  induction entries generalizing sorted with
  | nil => rw [List.append_nil, List.foldl_nil]
  | cons entry rest ih =>
      obtain ⟨key, value⟩ := entry
      have hmoved : (sorted ++ (key, value) :: rest).Perm ((key, value) :: (sorted ++ rest)) :=
        List.perm_middle
      have hkeys := (hmoved.map Prod.fst).nodup_iff.1 h
      rw [List.map_cons, List.nodup_cons, List.map_append, List.mem_append, not_or] at hkeys
      have hinserted : (insert key value sorted).Perm ((key, value) :: sorted) :=
        alter_perm _ hkeys.1.1
      have hall : (insert key value sorted ++ rest).Perm ((key, value) :: (sorted ++ rest)) :=
        hinserted.append_right rest
      have hnodup := ((hall.trans hmoved.symm).map Prod.fst).nodup_iff.2 h
      exact (ih hnodup).trans (hall.trans hmoved.symm)

/-- Sorting entries with different keys only changes their order. -/
theorem ofEntries_perm {entries : List (String × α)} (h : (entries.map Prod.fst).Nodup) :
    (ofEntries entries).Perm entries :=
  foldl_insert_perm h

end PulseTimeline.Sorted
