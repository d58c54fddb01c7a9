import PulseTimeline.Proofs.Computation
import PulseTimeline.Timeline.Store

set_option autoImplicit false

/-! # Access to the timelines of a store

A store creates a timeline when it is first touched. Seen through `timeline?`, which gives an
untouched element the timeline that it would begin with, creation changes nothing at all: only an
edit does, and only at its own element. The laws of composed operations are stated on this view. -/

namespace PulseTimeline

namespace Store

/-- The timeline of an element: the one it has, or else the one it would begin with. -/
def timeline? (store : Store) (hardware : Hardware) (channel : String) : Option Timeline :=
  match store.find? channel with
  | some timeline => some timeline
  | none => (hardware.element? channel).map fun element => .new channel element.kind

variable {hardware : Hardware} {store next : Store} {channel other : String}
  {timeline changed : Timeline}

/-! ## Filing a timeline -/

@[simp] theorem find?_put_self (store : Store) (channel : String) (timeline : Timeline) :
    (store.put channel timeline).find? channel = some timeline :=
  Table.find?_insert_self store.timelines channel timeline

theorem find?_put_of_ne (store : Store) (timeline : Timeline) (h : other ≠ channel) :
    (store.put channel timeline).find? other = store.find? other :=
  Table.find?_insert_of_ne store.timelines timeline h

@[simp] theorem put_put (store : Store) (channel : String) (timeline changed : Timeline) :
    (store.put channel timeline).put channel changed = store.put channel changed := by
  simp [put]

theorem put_eq_self (h : store.find? channel = some timeline) :
    store.put channel timeline = store := by
  rw [put, Table.insert_eq_self store.timelines channel timeline h]

theorem timeline?_of_find? (h : store.find? channel = some timeline) :
    store.timeline? hardware channel = some timeline := by
  rw [timeline?, h]

theorem timeline?_congr (hardware : Hardware) (h : next.find? channel = store.find? channel) :
    next.timeline? hardware channel = store.timeline? hardware channel := by
  rw [timeline?, h, timeline?]

theorem timeline?_eq_none_iff : store.timeline? hardware channel = none
    ↔ store.find? channel = none ∧ hardware.element? channel = none := by
  rw [timeline?]
  cases store.find? channel <;> simp

/-- A timeline is there already, or the element is configured and would begin with it. -/
theorem timeline?_eq_some_iff : store.timeline? hardware channel = some timeline
    ↔ store.find? channel = some timeline ∨ store.find? channel = none
      ∧ ∃ element, hardware.element? channel = some element
        ∧ .new channel element.kind = timeline := by
  rw [timeline?]
  cases store.find? channel <;> simp

@[simp] theorem timeline?_put_self (hardware : Hardware) (store : Store) (channel : String)
    (timeline : Timeline) :
    (store.put channel timeline).timeline? hardware channel = some timeline :=
  timeline?_of_find? (find?_put_self store channel timeline)

theorem timeline?_put_of_ne (hardware : Hardware) (store : Store) (timeline : Timeline)
    (h : other ≠ channel) :
    (store.put channel timeline).timeline? hardware other = store.timeline? hardware other := by
  rw [timeline?, find?_put_of_ne store timeline h, timeline?]

/-- Filing the timeline that an element has or would begin with does not show. -/
theorem timeline?_put_of_timeline? (h : store.timeline? hardware channel = some timeline)
    (other : String) :
    (store.put channel timeline).timeline? hardware other = store.timeline? hardware other := by
  by_cases heq : other = channel
  · rw [heq, timeline?_put_self, h]
  · exact timeline?_put_of_ne hardware store timeline heq

/-! ## Demands and edits -/

theorem run_demand (hardware : Hardware) (store : Store) (channel : String) :
    (demand hardware channel).run store = match store.timeline? hardware channel with
      | some timeline => .ok timeline (store.put channel timeline)
      | none => .error (.unknownChannel channel) store := by
  simp only [EStateM.run, demand, timeline?]
  cases hfind : store.find? channel with
  | some timeline => simp only [put_eq_self hfind]
  | none => cases hardware.element? channel <;> rfl

theorem run_demand_eq_ok_iff :
    (demand hardware channel).run store = .ok timeline next
      ↔ store.timeline? hardware channel = some timeline ∧ next = store.put channel timeline := by
  rw [run_demand]
  cases store.timeline? hardware channel with
  | none => simp
  | some found =>
      constructor
      · intro h
        cases h
        exact ⟨rfl, rfl⟩
      · rintro ⟨h, rfl⟩
        cases h
        rfl

theorem run_edit_eq_ok_iff {change : Timeline.Edit} {u : Unit} :
    (edit hardware channel change).run store = .ok u next
      ↔ ∃ timeline changed, store.timeline? hardware channel = some timeline
        ∧ change.run timeline = .ok () changed ∧ next = store.put channel changed := by
  constructor
  · intro h
    obtain ⟨timeline, filed, hdemand, h⟩ := run_bind_eq_ok.1 h
    obtain ⟨hfound, rfl⟩ := run_demand_eq_ok_iff.1 hdemand
    simp only [EStateM.run] at h
    split at h
    · next hchange =>
        cases h
        exact ⟨timeline, _, hfound, hchange, put_put store channel timeline _⟩
    · cases h
  · rintro ⟨timeline, changed, hfound, hchange, rfl⟩
    have hdemand := run_demand_eq_ok_iff.2 ⟨hfound, rfl⟩
    refine run_bind_eq_ok.2 ⟨timeline, store.put channel timeline, hdemand, ?_⟩
    have hrun : change timeline = .ok () changed := hchange
    simp [EStateM.run, hrun]

/-- An edit that fails files what the failed change has left. -/
theorem run_edit_eq_error {change : Timeline.Edit} {e : TimelineError}
    (hfound : store.timeline? hardware channel = some timeline)
    (hchange : change.run timeline = .error e changed) :
    (edit hardware channel change).run store = .error e (store.put channel changed) := by
  have hdemand := run_demand_eq_ok_iff.2 ⟨hfound, rfl⟩
  refine run_bind_eq_error.2 (Or.inr ⟨timeline, store.put channel timeline, hdemand, ?_⟩)
  have hrun : change timeline = .error e changed := hchange
  simp [EStateM.run, hrun]

end Store

/-- A change made several times over. -/
def Timeline.Edit.times (change : Timeline.Edit) : Nat → Timeline.Edit
  | 0 => pure ()
  | n + 1 => do
    change
    times change n

namespace Store

variable {hardware : Hardware} {store next : Store}

/-- An element that is not named keeps what it has. -/
theorem find?_editAll_of_not_mem {change : Timeline.Edit} {names : List String} {channel : String}
    (h : (editAll hardware change names).run store = .ok () next) (hnamed : channel ∉ names) :
    next.find? channel = store.find? channel := by
  induction names generalizing store with
  | nil =>
      obtain ⟨-, rfl⟩ := run_pure_eq_ok.1 h
      rfl
  | cons name rest ih =>
      obtain ⟨u, middle, hfirst, hrest⟩ := run_bind_eq_ok.1 h
      obtain ⟨timeline, changed, -, -, rfl⟩ := run_edit_eq_ok_iff.1 hfirst
      rw [List.mem_cons, not_or] at hnamed
      rw [ih hrest hnamed.2, find?_put_of_ne store changed hnamed.1]

/-- Every element that is named has a timeline, and is changed as often as it is named. -/
theorem find?_editAll_of_mem {change : Timeline.Edit} {names : List String} {channel : String}
    (h : (editAll hardware change names).run store = .ok () next) (hnamed : channel ∈ names) :
    ∃ timeline changed, store.timeline? hardware channel = some timeline
      ∧ (change.times (names.count channel)).run timeline = .ok () changed
      ∧ next.find? channel = some changed := by
  induction names generalizing store with
  | nil => exact absurd hnamed List.not_mem_nil
  | cons name rest ih =>
      obtain ⟨u, middle, hfirst, hrest⟩ := run_bind_eq_ok.1 h
      obtain ⟨timeline, changed, hfound, hchange, rfl⟩ := run_edit_eq_ok_iff.1 hfirst
      by_cases heq : channel = name
      · subst heq
        rw [List.count_cons_self]
        by_cases hagain : channel ∈ rest
        · -- The rest of the list goes on from what the first edit has filed.
          obtain ⟨found, last, hfiled, hlast, hnext⟩ := ih hrest hagain
          rw [timeline?_put_self] at hfiled
          cases hfiled
          exact ⟨timeline, last, hfound,
            run_bind_eq_ok.2 ⟨(), changed, hchange, hlast⟩, hnext⟩
        · rw [List.count_eq_zero.2 hagain, find?_editAll_of_not_mem hrest hagain, find?_put_self]
          exact ⟨timeline, changed, hfound, run_bind_eq_ok.2 ⟨(), changed, hchange, rfl⟩, rfl⟩
      · rw [List.count_cons_of_ne (Ne.symm heq)]
        obtain ⟨found, last, hfiled, hlast, hnext⟩ := ih hrest (List.mem_of_ne_of_mem heq hnamed)
        rw [timeline?_put_of_ne hardware store changed heq] at hfiled
        exact ⟨found, last, hfiled, hlast, hnext⟩

end Store

end PulseTimeline
