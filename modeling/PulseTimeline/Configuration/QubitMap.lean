import PulseTimeline.Sorted

set_option autoImplicit false

/-! # Which elements act on which qubits

The map is kept as a sorted list of elements with sorted lists of qubits, so that it does not
depend on the order in which it was filled. -/

namespace PulseTimeline

/-- The qubits of elements. -/
structure QubitMap where
  entries : List (String × List Nat)
  /-- The elements are in the order of their names, each once. -/
  elements_increasing : Sorted.Increasing entries
  /-- The qubits of an element are in order, each once. -/
  qubits_increasing : ∀ entry ∈ entries, entry.2.Pairwise (· < ·)
  deriving DecidableEq

namespace QubitMap

/-- The map without elements. -/
def empty : QubitMap := ⟨[], List.Pairwise.nil, by simp⟩

instance : Inhabited QubitMap := ⟨empty⟩

/-- Add qubits to a sorted list of qubits. -/
def addQubits (qubits old : List Nat) : List Nat :=
  qubits.foldl (fun set n => Sorted.insertNumber n set) old

theorem addQubits_increasing (qubits old : List Nat) (h : old.Pairwise (· < ·)) :
    (addQubits qubits old).Pairwise (· < ·) := by
  induction qubits generalizing old with
  | nil => exact h
  | cons n rest ih => exact ih (Sorted.insertNumber n old) (Sorted.insertNumber_increasing n old h)

/-- Add qubits to those of an element. An element without qubits is still mapped. -/
def insert (map : QubitMap) (element : String) (qubits : List Nat) : QubitMap where
  entries := Sorted.alter element (fun old => addQubits qubits (old.getD [])) map.entries
  elements_increasing := Sorted.alter_increasing element _ map.entries map.elements_increasing
  qubits_increasing := by
    intro entry hentry
    rcases Sorted.mem_alter element _ map.entries entry hentry with ⟨old, rfl, hold⟩ | hold
    · refine addQubits_increasing qubits _ ?_
      cases old with
      | none => exact List.Pairwise.nil
      | some set => exact map.qubits_increasing _ (hold set rfl)
    · exact map.qubits_increasing entry hold

/-- Insert pairs one after the other. -/
def ofList (pairs : List (String × List Nat)) : QubitMap :=
  pairs.foldl (fun map pair => map.insert pair.1 pair.2) empty

/-- The qubits of an element that is mapped. -/
def qubits? (map : QubitMap) (element : String) : Option (List Nat) := map.entries.lookup element

/-- Whether two lists of qubits have one in common. -/
def meet (a b : List Nat) : Bool := a.any fun n => b.contains n

/-- The elements that share a qubit with the given one, in order of their names, each once. It
    always shares with itself, and comes last if its own qubits do not show that. -/
def sharing (map : QubitMap) (element : String) : List String :=
  match map.qubits? element with
  | none => [element]
  | some qubits =>
    let names := (map.entries.filter fun entry => meet entry.2 qubits).map Prod.fst
    if names.contains element then names else names ++ [element]

/-! ## Sharing -/

theorem qubits?_eq_some_iff (map : QubitMap) (element : String) (qubits : List Nat) :
    map.qubits? element = some qubits ↔ (element, qubits) ∈ map.entries :=
  Sorted.lookup_eq_some_iff map.elements_increasing element qubits

theorem meet_eq_true_iff (a b : List Nat) : meet a b = true ↔ ∃ n, n ∈ a ∧ n ∈ b := by
  simp [meet, List.any_eq_true]

theorem meet_comm (a b : List Nat) : meet a b = meet b a := by
  rw [Bool.eq_iff_iff, meet_eq_true_iff, meet_eq_true_iff]
  constructor <;> exact fun ⟨n, hl, hr⟩ => ⟨n, hr, hl⟩

/-- An element shares with itself and with those that have a qubit in common with it. -/
theorem mem_sharing_iff (map : QubitMap) (element other : String) :
    other ∈ map.sharing element ↔
      other = element ∨ ∃ qubits others, map.qubits? element = some qubits ∧
        map.qubits? other = some others ∧ meet others qubits = true := by
  unfold sharing
  cases hq : map.qubits? element with
  | none => simp
  | some qubits =>
      have hmem : other ∈ (map.entries.filter fun entry => meet entry.2 qubits).map Prod.fst ↔
          ∃ others, map.qubits? other = some others ∧ meet others qubits = true := by
        simp only [List.mem_map, List.mem_filter, qubits?_eq_some_iff]
        constructor
        · rintro ⟨⟨name, others⟩, ⟨hentry, hmeet⟩, rfl⟩
          exact ⟨others, hentry, hmeet⟩
        · rintro ⟨others, hentry, hmeet⟩
          exact ⟨(other, others), ⟨hentry, hmeet⟩, rfl⟩
      simp only [Option.some.injEq, exists_eq_left', exists_and_left, ← hmem]
      split
      · next hself =>
          constructor
          · exact Or.inr
          · rintro (rfl | h)
            · simpa using hself
            · exact h
      · simp [or_comm]

theorem mem_sharing_self (map : QubitMap) (element : String) : element ∈ map.sharing element :=
  (map.mem_sharing_iff element element).2 (Or.inl rfl)

theorem mem_sharing_comm (map : QubitMap) (element other : String) :
    other ∈ map.sharing element ↔ element ∈ map.sharing other := by
  have half : ∀ a b, b ∈ map.sharing a → a ∈ map.sharing b := by
    intro a b h
    rcases (map.mem_sharing_iff a b).1 h with rfl | ⟨qubits, others, ha, hb, hmeet⟩
    · exact map.mem_sharing_self b
    · rw [meet_comm] at hmeet
      exact (map.mem_sharing_iff b a).2 (Or.inr ⟨others, qubits, hb, ha, hmeet⟩)
  exact ⟨half element other, half other element⟩

theorem nodup_sharing (map : QubitMap) (element : String) : (map.sharing element).Nodup := by
  unfold sharing
  cases map.qubits? element with
  | none => simp
  | some qubits =>
      have hnames : ((map.entries.filter fun entry => meet entry.2 qubits).map Prod.fst).Nodup :=
        map.elements_increasing.nodup_keys.sublist (List.filter_sublist.map Prod.fst)
      simp only []
      split
      · exact hnames
      · next habsent =>
          refine List.nodup_append.2 ⟨hnames, by simp, ?_⟩
          intro a ha b hb hab
          rw [List.mem_singleton] at hb
          exact habsent (by simpa [← hb, ← hab] using ha)

end QubitMap

end PulseTimeline
