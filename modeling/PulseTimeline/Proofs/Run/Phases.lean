import PulseTimeline.Proofs.Run.Origins
import PulseTimeline.Proofs.Run.Synchrony
import PulseTimeline.Proofs.Timeline.Phase

set_option autoImplicit false

/-! # The phases of a run

No state of a run, and no outcome of a program, has a timeline whose phase differs from what its
instructions say. -/

namespace PulseTimeline

theorem Store.Originated.accounts {store : Store} (h : store.Originated) {channel : String}
    {timeline : Timeline} (hfound : store.find? channel = some timeline) (side : Quadrature) :
    timeline.Accounts side := by
  obtain ⟨kind, hreached⟩ := h channel timeline hfound
  exact hreached.accounts side

/-- **Phases are what instructions say.** Whatever calls are made on a new timeline, and whatever
    runs make of their timelines, the phase is what the instructions along either signal lead to
    from zero, and each reset directly follows the offset that turns the frame back by the phase
    before it. -/
theorem phases_account_for_instructions :
    (∀ channel kind timeline, Timeline.Reached (.new channel kind) timeline →
      ∀ side, timeline.Accounts side)
    ∧ (∀ (setups : Set Setup) (first state : RunState), first.timelines = .empty →
      Run.Reached setups first state → ∀ channel timeline,
        state.timelines.find? channel = some timeline → ∀ side, timeline.Accounts side)
    ∧ ∀ (program : Program) (setup : Setup) (outcome : Outcome),
      program.run setup = .ok outcome → ∀ channel timeline,
        outcome.timelines.find? channel = some timeline → ∀ side, timeline.Accounts side := by
  refine ⟨?_, ?_, ?_⟩
  · intro channel kind timeline hreached side
    exact hreached.accounts side
  · intro setups first state hfirst hreached channel timeline hfound side
    have horiginated : state.timelines.Originated := by
      refine hreached.originated ?_
      rw [hfirst]
      exact Store.originated_empty
    exact horiginated.accounts hfound side
  · intro program setup outcome hrun channel timeline hfound side
    exact (Program.originated_of_run hrun).accounts hfound side

/-- The frame is turned in one segment and turned back in the next one, which begins with the
    phase that the first one has left. -/
theorem phases_of_reset_after_restart :
    ∃ timeline : Timeline, Timeline.Reached (.new "q1" .iq) timeline
      ∧ timeline.segments
        = [.iq [.phaseOffset ⟨0.5⟩] [.phaseOffset ⟨0.5⟩],
          .iq [.phaseOffset (-(⟨0.0⟩ + ⟨0.5⟩)), .resetPhase]
            [.phaseOffset (-(⟨0.0⟩ + ⟨0.5⟩)), .resetPhase]]
      ∧ (∀ side, timeline.Accounts side)
      ∧ ∃ state marked, Run.Reached {Run.neighbours} ⟨.empty, .empty, .empty, .empty⟩ state
        ∧ state.timelines.find? "qe1" = some marked ∧ marked.phase = ⟨0.0⟩
        ∧ (∀ side, marked.Accounts side)
        ∧ ∃ outcome,
          Program.run ⟨[.resetPhase ["qe1"]], []⟩ Run.neighbours = .ok outcome
          ∧ outcome.timelines.find? "qe1" = some marked ∧ ∀ side, marked.Accounts side := by
  have hsetup : Run.neighbours ∈ ({Run.neighbours} : Set Setup) := Set.mem_singleton _
  have hreached : Timeline.Reached (.new "q1" .iq) _ :=
    ((Timeline.Reached.start.stateAfter (.phaseOffset ⟨0.5⟩)).stateAfter .restart).stateAfter
      .resetPhase
  have hstate : Run.Reached {Run.neighbours} ⟨.empty, .empty, .empty, .empty⟩ _ :=
    .executed hsetup (.resetPhase ["qe1"]) .start
  have hrun : ∃ outcome, Program.run ⟨[.resetPhase ["qe1"]], []⟩ Run.neighbours = .ok outcome :=
    ⟨_, rfl⟩
  obtain ⟨outcome, hrun⟩ := hrun
  have hmarked : ∃ marked, outcome.timelines.find? "qe1" = some marked := by
    cases hrun
    exact ⟨_, rfl⟩
  obtain ⟨marked, hmarked⟩ := hmarked
  refine ⟨_, hreached, rfl, phases_account_for_instructions.1 _ _ _ hreached, _, marked, hstate, ?_,
    ?_, ?_, outcome, hrun, hmarked, ?_⟩
  · cases hrun
    exact hmarked
  · cases hrun
    cases hmarked
    rfl
  · refine phases_account_for_instructions.2.1 _ _ _ rfl hstate "qe1" marked ?_
    cases hrun
    exact hmarked
  · exact phases_account_for_instructions.2.2 _ _ _ hrun "qe1" marked hmarked

end PulseTimeline
