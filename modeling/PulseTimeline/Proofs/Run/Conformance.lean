import PulseTimeline.Proofs.Run.Steps
import PulseTimeline.Proofs.Store.Soundness
import PulseTimeline.Proofs.Timeline.Instructions

set_option autoImplicit false

/-! # Timelines conform to the setup

A timeline takes its name and its kind from the element that it is created for, and no call changes
either. A pulse is added by a call to play it only, which the timeline accepts only if it has two
quadratures, and which a run makes only within the limit of its settings. The law is proved of every
timeline that an element has or would begin with, so that it does not matter which statement creates
a timeline. -/

namespace PulseTimeline

/-! ## Timelines -/

/-- A timeline is that of the element it is filed under, and plays only what the settings allow. -/
structure Timeline.Conforms (setup : Setup) (name : String) (timeline : Timeline) : Prop where
  named : timeline.channel = name
  configured : ∃ element, setup.hardware.element? name = some element
    ∧ timeline.kind = element.kind
  pulses : ∀ operation samples, .play operation samples ∈ timeline.instructions →
    samples.length ≤ setup.settings.maxPulseSamples ∧ timeline.kind = .iq

namespace Timeline

variable {setup : Setup} {name : String} {timeline : Timeline}

theorem conforms_new {element : Element} (h : setup.hardware.element? name = some element) :
    (new name element.kind).Conforms setup name where
  named := rfl
  configured := ⟨element, h, rfl⟩
  pulses := by
    intro operation samples hplay
    simp [instructions, segments, new] at hplay

theorem Conforms.result (h : timeline.Conforms setup name) {call : Call}
    (hlimit : call.WithinLimit setup.settings) (haccepted : call.refusal? timeline = none) :
    (call.result timeline).Conforms setup name where
  named := h.named
  configured := h.configured
  pulses := by
    intro operation samples hplay
    rcases play_mem_instructions_result hplay with hold | ⟨i, q, rfl, hsamples⟩
    · exact h.pulses operation samples hold
    · -- The call has been accepted, so that both quadratures are of the length that was checked.
      obtain ⟨hlength, hkind, -⟩ := (Call.refusal?_playIq_eq_none_iff ..).1 haccepted
      have hi : i.length ≤ setup.settings.maxPulseSamples := hlimit
      refine ⟨?_, hkind⟩
      rcases hsamples with rfl | rfl
      · exact hi
      · exact hlength ▸ hi

theorem Conforms.stateAfter (h : timeline.Conforms setup name) {call : Call}
    (hlimit : call.WithinLimit setup.settings) :
    (stateAfter call.edit timeline).Conforms setup name :=
  stateAfter_edit (P := Conforms setup name) h (h.result hlimit)

end Timeline

/-! ## Stores -/

namespace Store

/-- The timelines that elements have or would begin with all conform. -/
def Conforms (setup : Setup) (store : Store) : Prop :=
  ∀ channel timeline, store.timeline? setup.hardware channel = some timeline →
    timeline.Conforms setup channel

variable {setup : Setup} {store next : Store}

theorem conforms_empty (setup : Setup) : Store.empty.Conforms setup := by
  intro channel timeline hfound
  obtain ⟨element, helement, rfl⟩ := timeline?_empty_eq_some hfound
  exact Timeline.conforms_new helement

theorem Conforms.step (h : store.Conforms setup) (hstep : Step setup store next) :
    next.Conforms setup :=
  hstep.invariant (P := Conforms setup)
    (fun _ _ haccess hstore => haccess.forall_timeline? (P := Timeline.Conforms setup)
      (fun _ _ _ hlimit hconforms => hconforms.stateAfter hlimit) hstore) h

theorem Conforms.of_mem (h : store.Conforms setup) {channel : String}
    (hchannel : channel ∈ store.channels) :
    ∃ timeline, store.find? channel = some timeline ∧ timeline.Conforms setup channel := by
  have hpresent := (store.timelines.mem_keys_iff channel).1 hchannel
  obtain ⟨timeline, hfound⟩ := Option.ne_none_iff_exists'.1 hpresent
  exact ⟨timeline, hfound, h channel timeline (timeline?_of_find? hfound)⟩

end Store

/-! ## Runs -/

namespace Run

theorem Reached.conforms {setup : Setup} {first state : RunState}
    (hfirst : first.timelines = .empty) (h : Reached {setup} first state) :
    state.timelines.Conforms setup := by
  refine h.timelines (P := Store.Conforms setup) ?_ ?_
  · intro other hother store next hstep hstore
    cases Set.mem_singleton_iff.1 hother
    exact hstore.step hstep
  · rw [hfirst]
    exact Store.conforms_empty setup

/-- **Timelines conform.** Wherever a run has come to from the empty store, and wherever a program
    ends, every element that has a timeline has one, under its own name, and is configured with its
    kind; all pulses that are played are within the limit and on elements with two quadratures. -/
theorem timelines_conform_to_setup (setup : Setup) :
    (∀ first state : RunState, first.timelines = .empty → Reached {setup} first state →
      state.timelines.channels.Nodup
        ∧ ∀ channel ∈ state.timelines.channels, ∃ timeline,
          state.timelines.find? channel = some timeline ∧ timeline.Conforms setup channel)
    ∧ ∀ (program : Program) (outcome : Outcome), program.run setup = .ok outcome →
      outcome.timelines.channels.Nodup
        ∧ ∀ channel ∈ outcome.timelines.channels, ∃ timeline,
          outcome.timelines.find? channel = some timeline ∧ timeline.Conforms setup channel := by
  refine ⟨?_, ?_⟩
  · intro first state hfirst hreached
    exact ⟨state.timelines.timelines.nodup_keys, fun _ => (hreached.conforms hfirst).of_mem⟩
  · intro program outcome hrun
    obtain ⟨first, last, hinitial, hreached, rfl⟩ := Program.reached_of_run hrun
    obtain ⟨environment, rfl⟩ := Program.initialState_eq_ok hinitial
    exact ⟨last.timelines.timelines.nodup_keys, fun _ => (hreached.conforms rfl).of_mem⟩

/-- A machine that drives one element with two quadratures and one with a single signal, in pulses
    of at most four samples. -/
def shortPulses : Setup where
  hardware := ⟨.ofList [("q1", ⟨some .null, none, .ofList [("x180", "flip")], none⟩),
      ("flux", ⟨none, some .null, .empty, none⟩)],
    .ofList [("flip", ⟨"control", 2, .ofList [("I", "rise"), ("Q", "rest")]⟩)],
    .ofList [("rise", .arbitrary [0.25, 0.5]), ("rest", .constant 0.0)]⟩
  qubits := .empty
  settings := { Settings.standard with maxPulseSamples := 4 }

/-- A ramp of one clock cycle. -/
def rampOn (element : String) : Statement :=
  .play (.ramp (.literal "0.5" (some .real))) element none (some (.literal "1" none))

/-- A ramp is as long as it may be on an element with two quadratures; on the other one it is
    refused, and leaves a timeline without instructions. -/
theorem conformance_of_ramps_and_measurement :
    (∃ state driven refused, Reached {shortPulses} ⟨.empty, .empty, .empty, .empty⟩ state
      ∧ state.timelines.channels = ["q1", "flux"]
      ∧ state.timelines.find? "q1" = some driven ∧ driven.Conforms shortPulses "q1"
      ∧ driven.segments
        = [.iq [.play "ramp" [0.0, 0.5, 1.0, 1.5]] [.play "ramp" [0.0, 0.0, 0.0, 0.0]]]
      ∧ state.timelines.find? "flux" = some refused ∧ refused.Conforms shortPulses "flux"
      ∧ refused.segments = [.single []])
    ∧ ∃ outcome measured,
      Program.run ⟨[.measure "q1" (some "x180")], []⟩ shortPulses = .ok outcome
      ∧ outcome.timelines.find? "q1" = some measured ∧ measured.Conforms shortPulses "q1"
      ∧ measured.closed = [.iq [.play "x180" [0.25, 0.5], .measure (some "x180")]
        [.play "x180" [0.0, 0.0], .measure (some "x180")]] := by
  obtain ⟨hreachedConforms, hrunConforms⟩ := timelines_conform_to_setup shortPulses
  refine ⟨?_, ?_⟩
  · have hsetup : shortPulses ∈ ({shortPulses} : Set Setup) := Set.mem_singleton shortPulses
    obtain ⟨state, hreached, hchannels, hdriven, hrefused⟩ :
        ∃ state, Reached {shortPulses} ⟨.empty, .empty, .empty, .empty⟩ state
          ∧ state.timelines.channels = ["q1", "flux"]
          ∧ (state.timelines.find? "q1").map Timeline.segments
            = some [.iq [.play "ramp" [0.0, 0.5, 1.0, 1.5]] [.play "ramp" [0.0, 0.0, 0.0, 0.0]]]
          ∧ (state.timelines.find? "flux").map Timeline.segments = some [.single []] :=
      ⟨_, .executed hsetup (rampOn "flux") (.executed hsetup (rampOn "q1") .start),
        by decide, by decide, by decide⟩
    obtain ⟨-, hconforms⟩ := hreachedConforms _ state rfl hreached
    obtain ⟨driven, hfoundDriven, hdrivenConforms⟩ := hconforms "q1" (by simp [hchannels])
    obtain ⟨refused, hfoundRefused, hrefusedConforms⟩ := hconforms "flux" (by simp [hchannels])
    rw [hfoundDriven] at hdriven
    rw [hfoundRefused] at hrefused
    exact ⟨state, driven, refused, hreached, hchannels, hfoundDriven, hdrivenConforms,
      Option.some.inj hdriven, hfoundRefused, hrefusedConforms, Option.some.inj hrefused⟩
  · obtain ⟨outcome, hrun, hchannels, hclosed⟩ :
        ∃ outcome, Program.run ⟨[.measure "q1" (some "x180")], []⟩ shortPulses = .ok outcome
          ∧ outcome.timelines.channels = ["q1"]
          ∧ (outcome.timelines.find? "q1").map Timeline.closed
            = some [.iq [.play "x180" [0.25, 0.5], .measure (some "x180")]
              [.play "x180" [0.0, 0.0], .measure (some "x180")]] :=
      ⟨_, rfl, by decide, by decide⟩
    obtain ⟨measured, hfound, hconforms⟩ :=
      (hrunConforms _ outcome hrun).2 "q1" (by simp [hchannels])
    rw [hfound] at hclosed
    exact ⟨outcome, measured, hrun, hfound, hconforms, Option.some.inj hclosed⟩

end Run

end PulseTimeline
