import PulseTimeline.Environment
import PulseTimeline.Proofs.Computation

set_option autoImplicit false

/-! # Access to variables

Variables are read and written by name, and the slots of an array by name and index. A write
succeeds exactly where a read does, and puts the value there, cast to the type that it finds. A
write that is refused changes nothing at all. -/

namespace PulseTimeline

namespace Environment

variable {environment next : Environment} {name other : String} {index : Int64}

/-! ## Reading -/

@[simp] theorem find?_put_self (environment : Environment) (name : String) (meaning : Variable) :
    (environment.put name meaning).find? name = some meaning :=
  Table.find?_insert_self environment.bindings name meaning

theorem find?_put_of_ne (environment : Environment) (meaning : Variable) (h : other ≠ name) :
    (environment.put name meaning).find? other = environment.find? other :=
  Table.find?_insert_of_ne environment.bindings meaning h

/-- A name that stands for something keeps its place when it comes to stand for something else. -/
theorem keys_put {meaning : Variable} (h : environment.find? name = some meaning)
    (later : Variable) : (environment.put name later).bindings.keys = environment.bindings.keys :=
  environment.bindings.keys_insert_of_mem name later (Option.ne_none_iff_exists'.2 ⟨meaning, h⟩)

theorem lookup_eq_ok_iff {found : Variable} :
    environment.lookup name = .ok found ↔ environment.find? name = some found := by
  unfold lookup
  split
  · next other hother => simp [hother]
  · next hnone => simp [hnone]

theorem scalar_eq_ok_iff {value : Value} :
    environment.scalar name = .ok value ↔ environment.find? name = some (.scalar value) := by
  rw [scalar, except_bind_eq_ok]
  constructor
  · rintro ⟨found, hlookup, hvalue⟩
    cases found with
    | scalar current =>
        cases hvalue
        exact lookup_eq_ok_iff.1 hlookup
    | array type values => cases hvalue
  · intro hfound
    exact ⟨_, lookup_eq_ok_iff.2 hfound, rfl⟩

theorem array_eq_ok_iff {values : Array Value} :
    environment.array name = .ok values
      ↔ ∃ type, environment.find? name = some (.array type values) := by
  rw [array, except_bind_eq_ok]
  constructor
  · rintro ⟨found, hlookup, hvalues⟩
    cases found with
    | scalar current => cases hvalues
    | array type values =>
        cases hvalues
        exact ⟨type, lookup_eq_ok_iff.1 hlookup⟩
  · rintro ⟨type, hfound⟩
    exact ⟨_, lookup_eq_ok_iff.2 hfound, rfl⟩

/-- The index stands for a slot among so many. -/
def IsSlot (index : Int64) (length : Nat) : Prop := 0 ≤ index.toInt ∧ index.toInt < length

/-- The name stands for an array with a slot at the index. -/
def HasSlot (environment : Environment) (name : String) (index : Int64) : Prop :=
  ∃ type values, environment.find? name = some (.array type values) ∧ IsSlot index values.size

theorem slot_eq_ok_iff {array : String} {length : Nat} {position : Fin length} :
    slot array index length = .ok position ↔ index.toInt = position.val := by
  have hposition := position.isLt
  unfold slot
  split
  · next hin =>
      simp only [Except.ok.injEq, Fin.ext_iff]
      omega
  · next hout =>
      refine iff_of_false nofun fun hindex => hout ⟨?_, ?_⟩ <;> omega

theorem exists_slot_iff (array : String) {length : Nat} :
    (∃ position, slot array index length = .ok position) ↔ IsSlot index length := by
  constructor
  · rintro ⟨position, hslot⟩
    have hindex := slot_eq_ok_iff.1 hslot
    have hposition := position.isLt
    constructor <;> omega
  · rintro ⟨hnonneg, hlt⟩
    have hin : index.toInt.toNat < length := by omega
    exact ⟨⟨index.toInt.toNat, hin⟩, slot_eq_ok_iff.2 (Int.toNat_of_nonneg hnonneg).symm⟩

theorem slot_of_not_isSlot {length : Nat} (h : ¬ IsSlot index length) (array : String) :
    slot array index length = .error (.indexOutOfBounds array index length) := by
  refine dif_neg fun hin => h ⟨hin.1, ?_⟩
  omega

/-- The value at an index, if it stands for a slot. -/
def valueAt? (values : Array Value) (index : Int64) : Option Value :=
  if 0 ≤ index.toInt then values[index.toInt.toNat]? else none

theorem valueAt?_eq_none_iff {values : Array Value} :
    valueAt? values index = none ↔ ¬ IsSlot index values.size := by
  unfold valueAt? IsSlot
  split
  · next h =>
      rw [Array.getElem?_eq_none_iff]
      omega
  · next h => simp [h]

theorem valueAt?_of_slot {values : Array Value} {array : String} {position : Fin values.size}
    (h : slot array index values.size = .ok position) :
    valueAt? values index = values[position.val]? := by
  have hindex := slot_eq_ok_iff.1 h
  simp [valueAt?, hindex]

/-- How an array is read depends on the value at the index, and on the size where there is none. -/
theorem element_of_find? {type : ScalarType} {values : Array Value}
    (h : environment.find? name = some (.array type values)) (index : Int64) :
    environment.element name index = match valueAt? values index with
      | some value => .ok value
      | none => .error (.indexOutOfBounds name index values.size) := by
  rw [element, array_eq_ok_iff.2 ⟨type, h⟩, ok_bind]
  by_cases hin : IsSlot index values.size
  · obtain ⟨position, hslot⟩ := (exists_slot_iff name).2 hin
    rw [hslot, valueAt?_of_slot hslot, Array.getElem?_eq_getElem position.isLt]
    rfl
  · rw [slot_of_not_isSlot hin, valueAt?_eq_none_iff.2 hin]
    rfl

theorem exists_element_iff :
    (∃ value, environment.element name index = .ok value) ↔ environment.HasSlot name index := by
  constructor
  · rintro ⟨value, hvalue⟩
    obtain ⟨values, harray, hvalue⟩ := except_bind_eq_ok.1 hvalue
    obtain ⟨position, hslot, -⟩ := except_bind_eq_ok.1 hvalue
    obtain ⟨type, hfound⟩ := array_eq_ok_iff.1 harray
    exact ⟨type, values, hfound, (exists_slot_iff name).1 ⟨position, hslot⟩⟩
  · rintro ⟨type, values, hfound, hin⟩
    rw [element_of_find? hfound]
    obtain ⟨position, hslot⟩ := (exists_slot_iff name).2 hin
    rw [valueAt?_of_slot hslot, Array.getElem?_eq_getElem position.isLt]
    exact ⟨_, rfl⟩

/-! ## Writing -/

theorem run_assign_eq_ok_iff {value : Value} {u : Unit} :
    (assign name value).run environment = .ok u next
      ↔ ∃ current, environment.find? name = some (.scalar current)
        ∧ next = environment.put name (.scalar (value.cast current.type)) := by
  simp only [EStateM.run, assign, lookup]
  cases environment.find? name with
  | none => simp
  | some meaning => cases meaning <;> simp [eq_comm]

theorem run_assignElement_eq_ok_iff {value : Value} {u : Unit} :
    (assignElement name index value).run environment = .ok u next
      ↔ ∃ type values position, environment.find? name = some (.array type values)
        ∧ slot name index values.size = .ok position
        ∧ next = environment.put name
          (.array type (values.set position (value.cast type) position.isLt)) := by
  constructor
  · intro h
    simp only [EStateM.run, assignElement, lookup] at h
    cases hfound : environment.find? name with
    | none => simp [hfound] at h
    | some meaning =>
        cases meaning with
        | scalar current => simp [hfound] at h
        | array type values =>
            cases hslot : slot name index values.size with
            | error e => simp [hfound, hslot] at h
            | ok position =>
                simp only [hfound, hslot, EStateM.Result.ok.injEq] at h
                exact ⟨type, values, position, rfl, hslot, h.2.symm⟩
  · rintro ⟨type, values, position, hfound, hslot, rfl⟩
    simp only [EStateM.run, assignElement, lookup, hfound, hslot]

theorem exists_assignElement_iff (value : Value) :
    (∃ next, (assignElement name index value).run environment = .ok () next)
      ↔ environment.HasSlot name index := by
  constructor
  · rintro ⟨next, hrun⟩
    obtain ⟨type, values, position, hfound, hslot, -⟩ := run_assignElement_eq_ok_iff.1 hrun
    exact ⟨type, values, hfound, (exists_slot_iff name).1 ⟨position, hslot⟩⟩
  · rintro ⟨type, values, hfound, hin⟩
    obtain ⟨position, hslot⟩ := (exists_slot_iff name).2 hin
    exact ⟨_, run_assignElement_eq_ok_iff.2 ⟨type, values, position, hfound, hslot, rfl⟩⟩

/-- A write to a slot is read there. -/
theorem valueAt?_set_self {values : Array Value} {position : Fin values.size}
    (h : slot name index values.size = .ok position) (value : Value) :
    valueAt? (values.set position value position.isLt) index = some value := by
  have hindex := slot_eq_ok_iff.1 h
  simp [valueAt?, hindex]

/-- A write to a slot is read at no other index, since no other index stands for the slot. -/
theorem valueAt?_set_of_ne {values : Array Value} {position : Fin values.size} {index' : Int64}
    (h : slot name index values.size = .ok position) (hne : index' ≠ index) (value : Value) :
    valueAt? (values.set position value position.isLt) index' = valueAt? values index' := by
  have hindex := slot_eq_ok_iff.1 h
  have hdiffer : index'.toInt ≠ index.toInt := fun heq => hne (Int64.toInt_inj.1 heq)
  unfold valueAt?
  split
  · next hnonneg =>
      rw [Array.getElem?_set_ne]
      omega
  · rfl

/-! ## Refusals -/

theorem eq_of_run_define_eq_error {definition : Definition} {e : RunError}
    (h : (define definition).run environment = .error e next) : next = environment := by
  cases definition with
  | scalar name type value => cases h
  | array name type values size =>
      simp only [EStateM.run, define] at h
      split at h
      · cases h
        rfl
      · cases h

theorem eq_of_run_assign_eq_error {value : Value} {e : RunError}
    (h : (assign name value).run environment = .error e next) : next = environment := by
  simp only [EStateM.run, assign] at h
  split at h
  · cases h
    rfl
  · cases h
  · cases h
    rfl

theorem eq_of_run_assignElement_eq_error {value : Value} {e : RunError}
    (h : (assignElement name index value).run environment = .error e next) :
    next = environment := by
  simp only [EStateM.run, assignElement] at h
  split at h
  · cases h
    rfl
  · cases h
    rfl
  · split at h
    · cases h
      rfl
    · cases h

/-! ## What a write leaves -/

/-- What holds of an environment and of the ones in which the scalar has another value of its type
    holds of what an assignment leaves. -/
theorem stateAfter_assign {P : Environment → Prop} {value : Value} (hrefused : P environment)
    (hwritten : ∀ current, environment.find? name = some (.scalar current) →
      P (environment.put name (.scalar (value.cast current.type)))) :
    P (stateAfter (assign name value) environment) := by
  cases hrun : (assign name value).run environment with
  | ok u next =>
      obtain ⟨current, hfound, rfl⟩ := run_assign_eq_ok_iff.1 hrun
      rw [stateAfter_of_ok hrun]
      exact hwritten current hfound
  | error e next =>
      obtain rfl := eq_of_run_assign_eq_error hrun
      rw [stateAfter_of_error hrun]
      exact hrefused

/-- What holds of an environment and of the ones in which a slot of the array has another value of
    its type holds of what an assignment to an element leaves. -/
theorem stateAfter_assignElement {P : Environment → Prop} {value : Value}
    (hrefused : P environment)
    (hwritten : ∀ type values (position : Fin (Array.size values)),
      environment.find? name = some (.array type values) →
        P (environment.put name (.array type (values.set position (value.cast type)
          position.isLt)))) :
    P (stateAfter (assignElement name index value) environment) := by
  cases hrun : (assignElement name index value).run environment with
  | ok u next =>
      obtain ⟨type, values, position, hfound, -, rfl⟩ := run_assignElement_eq_ok_iff.1 hrun
      rw [stateAfter_of_ok hrun]
      exact hwritten type values position hfound
  | error e next =>
      obtain rfl := eq_of_run_assignElement_eq_error hrun
      rw [stateAfter_of_error hrun]
      exact hrefused

end Environment

end PulseTimeline
