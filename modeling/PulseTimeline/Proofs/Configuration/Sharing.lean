import Mathlib.Data.List.Sort
import PulseTimeline.Configuration.QubitMap

set_option autoImplicit false

/-! # Sharing a qubit

A map of qubits is filled by insertions, which may come in any order and repeat elements and qubits.
All that is left of them is which elements they name and which qubits they assign to an element. So
maps that are filled with the same facts are the same map, and two elements share a qubit exactly if
one has been inserted for both. -/

namespace PulseTimeline

/-! ## Sorted lists -/

namespace Sorted

variable {α : Type} {key other : String} {entries others : List (String × α)}

theorem lookup_eq_none_of_lt (h : ∀ entry ∈ entries, key < entry.1) :
    entries.lookup key = none := by
  rw [List.lookup_eq_none_iff]
  intro entry hentry
  exact bne_iff_ne.2 (String.ne_of_lt (h entry hentry))

theorem lookup_alter_of_ne (f : Option α → α) (h : other ≠ key) :
    (alter key f entries).lookup other = entries.lookup other := by
  have hbeq : (other == key) = false := beq_eq_false_iff_ne.2 h
  induction entries with
  | nil => simp [alter, List.lookup_cons, hbeq]
  | cons entry rest ih =>
      obtain ⟨k, v⟩ := entry
      rw [alter]
      split
      · rw [List.lookup_cons, hbeq]
      · split
        · next heq =>
            subst heq
            simp only [List.lookup_cons, hbeq]
        · simp only [List.lookup_cons, ih]

/-- The value under a key is changed where it is, and made where there is none. -/
theorem lookup_alter_self (f : Option α → α) (h : Increasing entries) :
    (alter key f entries).lookup key = some (f (entries.lookup key)) := by
  induction entries with
  | nil => simp [alter]
  | cons entry rest ih =>
      obtain ⟨k, v⟩ := entry
      obtain ⟨hfirst, hrest⟩ := List.pairwise_cons.1 h
      rw [alter]
      split
      · next hlt =>
          -- The key comes before all others, so that it is not among them.
          have habsent : ((k, v) :: rest).lookup key = none := by
            refine lookup_eq_none_of_lt (List.forall_mem_cons.2 ⟨hlt, fun e he => ?_⟩)
            exact String.lt_trans hlt (hfirst e he)
          rw [List.lookup_cons_self, habsent]
      · split
        · next heq =>
            subst heq
            rw [List.lookup_cons_self, List.lookup_cons_self]
        · next hne =>
            have hbeq : (key == k) = false := beq_eq_false_iff_ne.2 hne
            simp only [List.lookup_cons, hbeq, ih hrest]

/-- An increasing list is determined by what is found in it. -/
theorem Increasing.eq_of_lookup (h : Increasing entries) (h' : Increasing others)
    (hlookup : ∀ key, entries.lookup key = others.lookup key) : entries = others := by
  have hirreflexive : Std.Irrefl fun a b : String × α => a.1 < b.1 :=
    ⟨fun a => String.lt_irrefl a.1⟩
  have hantisymmetric : Std.Antisymm fun a b : String × α => a.1 < b.1 :=
    ⟨fun a b hab hba => absurd hba (String.lt_asymm hab)⟩
  refine List.Pairwise.eq_of_mem_iff h h' fun ⟨key, value⟩ => ?_
  rw [← lookup_eq_some_iff h, ← lookup_eq_some_iff h', hlookup]

end Sorted

namespace QubitMap

/-! ## What a map says -/

/-- The element is mapped, if only to no qubits. -/
def Maps (map : QubitMap) (element : String) : Prop := ∃ qubits, map.qubits? element = some qubits

/-- The element acts on the qubit. -/
def Has (map : QubitMap) (element : String) (qubit : Nat) : Prop :=
  ∃ qubits, map.qubits? element = some qubits ∧ qubit ∈ qubits

variable {map later : QubitMap} {element other : String}

/-- A map is determined by the elements that it maps and the qubits that they act on. -/
theorem eq_of_says (hmaps : ∀ element, map.Maps element ↔ later.Maps element)
    (hhas : ∀ element qubit, map.Has element qubit ↔ later.Has element qubit) : map = later := by
  have hqubits : ∀ element, map.qubits? element = later.qubits? element := by
    intro element
    cases hfound : map.qubits? element with
    | none =>
        cases hlater : later.qubits? element with
        | none => rfl
        | some qubits =>
            obtain ⟨others, hothers⟩ := (hmaps element).2 ⟨qubits, hlater⟩
            cases hfound.symm.trans hothers
    | some qubits =>
        obtain ⟨others, hlater⟩ := (hmaps element).1 ⟨qubits, hfound⟩
        have hsorted : qubits.Pairwise (· < ·) :=
          map.qubits_increasing _ ((map.qubits?_eq_some_iff element qubits).1 hfound)
        have hsorted' : others.Pairwise (· < ·) :=
          later.qubits_increasing _ ((later.qubits?_eq_some_iff element others).1 hlater)
        rw [hlater, List.Pairwise.eq_of_mem_iff hsorted hsorted' fun qubit => ?_]
        simpa [Has, hfound, hlater] using hhas element qubit
  have hentries := map.elements_increasing.eq_of_lookup later.elements_increasing hqubits
  cases map
  cases later
  cases hentries
  rfl

theorem mem_sharing_iff_has :
    other ∈ map.sharing element
      ↔ other = element ∨ ∃ qubit, map.Has element qubit ∧ map.Has other qubit := by
  rw [mem_sharing_iff]
  simp only [meet_eq_true_iff, Has]
  constructor
  · rintro (heq | ⟨qubits, others, hqubits, hothers, qubit, hother, hself⟩)
    · exact Or.inl heq
    · exact Or.inr ⟨qubit, ⟨qubits, hqubits, hself⟩, others, hothers, hother⟩
  · rintro (heq | ⟨qubit, ⟨qubits, hqubits, hself⟩, others, hothers, hother⟩)
    · exact Or.inl heq
    · exact Or.inr ⟨qubits, others, hqubits, hothers, qubit, hother, hself⟩

/-! ## What an insertion adds -/

theorem mem_addQubits_iff {qubits old : List Nat} {qubit : Nat} :
    qubit ∈ addQubits qubits old ↔ qubit ∈ qubits ∨ qubit ∈ old := by
  induction qubits generalizing old with
  | nil => simp [addQubits]
  | cons first rest ih =>
      have hstep : addQubits (first :: rest) old
          = addQubits rest (Sorted.insertNumber first old) := rfl
      rw [hstep, ih, Sorted.mem_insertNumber, List.mem_cons, or_left_comm, or_assoc]

theorem qubits?_insert_self (map : QubitMap) (element : String) (qubits : List Nat) :
    (map.insert element qubits).qubits? element
      = some (addQubits qubits ((map.qubits? element).getD [])) :=
  Sorted.lookup_alter_self _ map.elements_increasing

theorem qubits?_insert_of_ne (map : QubitMap) (qubits : List Nat) (h : other ≠ element) :
    (map.insert element qubits).qubits? other = map.qubits? other :=
  Sorted.lookup_alter_of_ne _ h

theorem maps_insert_iff {qubits : List Nat} :
    (map.insert element qubits).Maps other ↔ other = element ∨ map.Maps other := by
  by_cases heq : other = element
  · subst heq
    exact iff_of_true ⟨_, qubits?_insert_self map other qubits⟩ (Or.inl rfl)
  · simp [Maps, qubits?_insert_of_ne map qubits heq, heq]

theorem has_insert_iff {qubits : List Nat} {qubit : Nat} :
    (map.insert element qubits).Has other qubit
      ↔ other = element ∧ qubit ∈ qubits ∨ map.Has other qubit := by
  by_cases heq : other = element
  · subst heq
    have hold : qubit ∈ (map.qubits? other).getD [] ↔ map.Has other qubit := by
      cases hfound : map.qubits? other <;> simp [Has, hfound]
    simp only [Has, qubits?_insert_self, Option.some.injEq, exists_eq_left', mem_addQubits_iff,
      true_and]
    rw [hold, Has]
  · simp [Has, qubits?_insert_of_ne map qubits heq, heq]

/-! ## What insertions add -/

/-- One of the insertions is for the element. -/
def Names (pairs : List (String × List Nat)) (element : String) : Prop :=
  ∃ qubits, (element, qubits) ∈ pairs

/-- One of the insertions is for the element and has the qubit. -/
def Assigns (pairs : List (String × List Nat)) (element : String) (qubit : Nat) : Prop :=
  ∃ qubits, (element, qubits) ∈ pairs ∧ qubit ∈ qubits

variable {pairs others : List (String × List Nat)}

theorem Assigns.names {qubit : Nat} (h : Assigns pairs element qubit) : Names pairs element :=
  have ⟨qubits, hmem, _⟩ := h
  ⟨qubits, hmem⟩

theorem names_cons_iff {qubits : List Nat} :
    Names ((element, qubits) :: pairs) other ↔ other = element ∨ Names pairs other := by
  simp [Names, exists_or]

theorem assigns_cons_iff {qubits : List Nat} {qubit : Nat} :
    Assigns ((element, qubits) :: pairs) other qubit
      ↔ other = element ∧ qubit ∈ qubits ∨ Assigns pairs other qubit := by
  simp only [Assigns, List.mem_cons, Prod.mk.injEq, or_and_right, exists_or]
  refine or_congr_left ⟨?_, ?_⟩
  · rintro ⟨added, ⟨rfl, rfl⟩, hmem⟩
    exact ⟨rfl, hmem⟩
  · rintro ⟨rfl, hmem⟩
    exact ⟨qubits, ⟨rfl, rfl⟩, hmem⟩

theorem maps_foldl_insert_iff (map : QubitMap) :
    (pairs.foldl (fun map pair => map.insert pair.1 pair.2) map).Maps element
      ↔ Names pairs element ∨ map.Maps element := by
  induction pairs generalizing map with
  | nil => simp [Names]
  | cons pair rest ih =>
      rw [List.foldl_cons, ih, maps_insert_iff, names_cons_iff, or_left_comm, or_assoc]

theorem has_foldl_insert_iff (map : QubitMap) {qubit : Nat} :
    (pairs.foldl (fun map pair => map.insert pair.1 pair.2) map).Has element qubit
      ↔ Assigns pairs element qubit ∨ map.Has element qubit := by
  induction pairs generalizing map with
  | nil => simp [Assigns]
  | cons pair rest ih =>
      rw [List.foldl_cons, ih, has_insert_iff, assigns_cons_iff, or_left_comm, or_assoc]

theorem maps_ofList_iff : (ofList pairs).Maps element ↔ Names pairs element := by
  rw [ofList, maps_foldl_insert_iff]
  simp [Maps, qubits?, empty]

theorem has_ofList_iff {qubit : Nat} :
    (ofList pairs).Has element qubit ↔ Assigns pairs element qubit := by
  rw [ofList, has_foldl_insert_iff]
  simp [Has, qubits?, empty]

/-- Insertions fill a map in the same way exactly if they name the same elements and assign the same
    qubits to them. -/
theorem ofList_eq_ofList_iff : ofList pairs = ofList others
    ↔ (∀ element, Names pairs element ↔ Names others element)
      ∧ ∀ element qubit, Assigns pairs element qubit ↔ Assigns others element qubit := by
  constructor
  · intro heq
    refine ⟨fun element => ?_, fun element qubit => ?_⟩
    · rw [← maps_ofList_iff, heq, maps_ofList_iff]
    · rw [← has_ofList_iff, heq, has_ofList_iff]
  · rintro ⟨hnames, hassigns⟩
    refine eq_of_says (fun element => ?_) fun element qubit => ?_
    · rw [maps_ofList_iff, maps_ofList_iff, hnames]
    · rw [has_ofList_iff, has_ofList_iff, hassigns]

/-- The order of the insertions does not show. -/
theorem ofList_eq_of_perm (h : pairs.Perm others) : ofList pairs = ofList others := by
  refine ofList_eq_ofList_iff.2 ⟨fun element => ?_, fun element qubit => ?_⟩
  · simp only [Names, h.mem_iff]
  · simp only [Assigns, h.mem_iff]

/-! ## The relation -/

/-- **Sharing is reflexive and symmetric.** However a map has been filled, the elements that share a
    qubit with an element are listed once each, the element itself among them. Any other element is
    among them exactly if both are mapped and some qubit has been inserted for both. So of two
    elements either both share with the other one or neither does, and neither the map nor the lists
    depend on the order of the insertions. -/
theorem sharing_is_reflexive_and_symmetric (pairs : List (String × List Nat)) :
    (∀ a, ((ofList pairs).sharing a).Nodup ∧ a ∈ (ofList pairs).sharing a)
    ∧ (∀ a b, b ≠ a → (b ∈ (ofList pairs).sharing a
      ↔ Names pairs a ∧ Names pairs b ∧ ∃ qubit, Assigns pairs a qubit ∧ Assigns pairs b qubit))
    ∧ (∀ a b, b ∈ (ofList pairs).sharing a ↔ a ∈ (ofList pairs).sharing b)
    ∧ ∀ others, pairs.Perm others → ofList others = ofList pairs
      ∧ ∀ a, (ofList others).sharing a = (ofList pairs).sharing a := by
  refine ⟨fun a => ⟨nodup_sharing _ a, mem_sharing_self _ a⟩, fun a b hne => ?_,
    fun a b => mem_sharing_comm _ a b, fun others hperm => ?_⟩
  · rw [mem_sharing_iff_has, or_iff_right hne]
    simp only [has_ofList_iff]
    constructor
    · rintro ⟨qubit, ha, hb⟩
      exact ⟨ha.names, hb.names, qubit, ha, hb⟩
    · exact fun ⟨_, _, hshared⟩ => hshared
  · have heq := ofList_eq_of_perm hperm.symm
    exact ⟨heq, fun a => by rw [heq]⟩

/-- A resonator between two qubits, one of which is mapped piece by piece, and an element without
    qubits. -/
def coupledQubits : List (String × List Nat) :=
  [("q1", [2]), ("flux", []), ("cr", [1, 0, 1]), ("q1", [0, 2]), ("q2", [1])]

/-- The resonator shares with both qubits, which do not share with one another. An element without
    qubits shares with itself. -/
theorem sharing_of_coupledQubits :
    "q1" ∈ (ofList coupledQubits).sharing "cr" ∧ "cr" ∈ (ofList coupledQubits).sharing "q1"
      ∧ "q2" ∉ (ofList coupledQubits).sharing "q1"
      ∧ "flux" ∈ (ofList coupledQubits).sharing "flux"
      ∧ coupledQubits.Perm coupledQubits.reverse
      ∧ ofList coupledQubits.reverse = ofList coupledQubits
      ∧ (ofList coupledQubits.reverse).sharing "cr" = ["cr", "q1", "q2"] := by
  obtain ⟨hlisted, hshared, hsymmetric, horder⟩ :=
    sharing_is_reflexive_and_symmetric coupledQubits
  have hreverse : coupledQubits.Perm coupledQubits.reverse := (List.reverse_perm _).symm
  have hcoupled : "q1" ∈ (ofList coupledQubits).sharing "cr" := by
    refine (hshared "cr" "q1" (by decide)).2 ⟨⟨[1, 0, 1], ?_⟩, ⟨[2], ?_⟩, 0, ?_⟩
    · decide
    · decide
    · exact ⟨⟨[1, 0, 1], by decide, by decide⟩, [0, 2], by decide, by decide⟩
  obtain ⟨hsame, hsharing⟩ := horder _ hreverse
  refine ⟨hcoupled, (hsymmetric "cr" "q1").1 hcoupled, ?_, (hlisted "flux").2, hreverse, hsame, ?_⟩
  · intro hmem
    obtain ⟨-, -, qubit, hfirst, hsecond⟩ := (hshared "q1" "q2" (by decide)).1 hmem
    have hsecondOnly : qubit = 1 := by simpa [Assigns, coupledQubits] using hsecond
    subst hsecondOnly
    simp [Assigns, coupledQubits, or_and_right, exists_or] at hfirst
  · rw [hsharing]
    decide

end QubitMap

end PulseTimeline
