import PulseTimeline.Proofs.Run.Steps
import PulseTimeline.Proofs.Store.Soundness

set_option autoImplicit false

/-! # Where the timelines of a run come from

A run makes its timelines itself and changes them by calls only, be the statements that make them
successful or not. So each timeline in the store of a run is what calls make of a new one, and
whatever holds after any calls on a new timeline holds of all timelines of all runs. -/

namespace PulseTimeline

theorem Timeline.Reached.stateAfter {first timeline : Timeline} (h : Reached first timeline)
    (call : Call) : Reached first (stateAfter call.edit timeline) := by
  cases hrun : call.edit.run timeline with
  | ok u next =>
      rw [stateAfter_of_ok hrun]
      exact h.succeeded call hrun
  | error e next =>
      rw [stateAfter_of_error hrun]
      exact h.failed call hrun

/-! ## Stores -/

namespace Store

/-- Every timeline of the store is what calls have made of a new one. -/
def Originated (store : Store) : Prop :=
  ∀ channel timeline, store.find? channel = some timeline →
    ∃ kind, Timeline.Reached (.new channel kind) timeline

variable {setup : Setup} {hardware : Hardware} {store next : Store} {channel : String}
  {timeline : Timeline}

theorem originated_empty : Store.empty.Originated := nofun

theorem Originated.timeline? (h : store.Originated)
    (hfound : store.timeline? hardware channel = some timeline) :
    ∃ kind, Timeline.Reached (.new channel kind) timeline := by
  rcases timeline?_eq_some_iff.1 hfound with hfind | ⟨-, element, -, rfl⟩
  · exact h channel timeline hfind
  · exact ⟨element.kind, .start⟩

theorem Originated.put (h : store.Originated)
    (hreached : ∃ kind, Timeline.Reached (.new channel kind) timeline) :
    (store.put channel timeline).Originated := by
  intro other found hfound
  by_cases heq : other = channel
  · subst heq
    rw [find?_put_self] at hfound
    cases hfound
    exact hreached
  · rw [find?_put_of_ne store timeline heq] at hfound
    exact h other found hfound

theorem Originated.access {calls : Timeline.Call → Prop} (h : store.Originated)
    (haccess : Access hardware calls store next) : next.Originated := by
  cases haccess with
  | touched name =>
      rw [stateAfter_demand]
      cases hfound : store.timeline? hardware name with
      | none => exact h
      | some timeline => exact h.put (h.timeline? hfound)
  | called name call hcall =>
      rw [stateAfter_edit]
      cases hfound : store.timeline? hardware name with
      | none => exact h
      | some timeline =>
          obtain ⟨kind, hreached⟩ := h.timeline? hfound
          exact h.put ⟨kind, hreached.stateAfter call⟩

theorem Originated.step (h : store.Originated) (hstep : Step setup store next) :
    next.Originated :=
  hstep.invariant (fun _ _ haccess hstore => Originated.access hstore haccess) h

end Store

/-! ## Runs -/

namespace Run

theorem Reached.originated {setups : Set Setup} {first state : RunState}
    (hfirst : first.timelines.Originated) (h : Reached setups first state) :
    state.timelines.Originated :=
  h.timelines (P := Store.Originated) (fun _ _ _ _ hstep hstore => hstore.step hstep) hfirst

end Run

theorem Program.originated_of_run {program : Program} {setup : Setup} {outcome : Outcome}
    (h : program.run setup = .ok outcome) : outcome.timelines.Originated := by
  obtain ⟨first, last, hinitial, hreached, rfl⟩ := reached_of_run h
  obtain ⟨environment, rfl⟩ := initialState_eq_ok hinitial
  exact hreached.originated Store.originated_empty

end PulseTimeline
