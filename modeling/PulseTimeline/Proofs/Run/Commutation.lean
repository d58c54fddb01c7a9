import PulseTimeline.Proofs.Run.Expansion
import PulseTimeline.Proofs.Run.Independence
import PulseTimeline.Proofs.Run.Playing
import PulseTimeline.Proofs.Statement.Effects

set_option autoImplicit false

/-! # Statements on disjoint elements commute

A statement that acts on the elements that it names is confined to them: from states that agree on
their timelines it does the same to these, and it changes no other timeline. Two such statements
without a common element may therefore be exchanged. Neither notices whether the other one has been
there before, and both orders end in states that agree on every channel. -/

namespace PulseTimeline

/-! ## States -/

/-- The states differ in nothing but the timelines of channels that are not among these. -/
def RunState.AgreesOnAll (names : List String) (state other : RunState) : Prop :=
  ∀ name ∈ names, state.AgreesOn name other

/-! ## Statements -/

namespace Statement

/-- The statement does what it does on elements that it names. -/
def ActsOnElements : Statement → Prop
  | play .. => True
  | rampToZero .. => True
  | wait _ elements => elements ≠ []
  | frameRotation _ elements => elements ≠ []
  | resetPhase elements => elements ≠ []
  | _ => False

variable {statement : Statement}

theorem ActsOnElements.isLocal (h : statement.ActsOnElements) : statement.IsLocal := by
  cases statement with
  | wait length elements => exact h
  | play | rampToZero | frameRotation | resetPhase => trivial
  | _ => exact h.elim

theorem ActsOnElements.onChannel?_eq_none {channel : String} (h : statement.ActsOnElements)
    (hother : channel ∉ statement.elements) : statement.onChannel? channel = none := by
  cases statement with
  | play pulse element amplitude length =>
      exact if_neg fun heq => hother (List.mem_singleton.2 heq.symm)
  | rampToZero element length =>
      exact if_neg fun heq => hother (List.mem_singleton.2 heq.symm)
  | wait | frameRotation | resetPhase => exact restricted?_eq_none_iff.2 hother
  | _ => exact h.elim

end Statement

namespace Run

open RunState (AgreesOn AgreesOnAll)

variable {setup : Setup} {names names' : List String} {α : Type}

/-! ## Confined computations -/

/-- A computation that is about some channels only. -/
structure ConfinedTo (names : List String) (x : Run Unit) : Prop where
  /-- It does the same from states that agree on the channels. -/
  inside : Simulated (AgreesOnAll names) x x
  /-- It shows on no other channel. -/
  outside : ∀ channel, channel ∉ names → Stepwise (AgreesOn channel) x

theorem ConfinedTo.agreesOn {x : Run Unit} {state next : RunState} (h : ConfinedTo names x)
    (hrun : x.run state = .ok () next) {channel : String} (hchannel : channel ∉ names) :
    state.AgreesOn channel next := by
  have hkept := (h.outside channel hchannel).related (RunState.equivalence_agreesOn channel)
  exact stateAfter_of_ok hrun ▸ hkept state

/-- Computations on different channels can be exchanged. -/
theorem ConfinedTo.swap {x y : Run Unit} {state last : RunState} (hx : ConfinedTo names x)
    (hy : ConfinedTo names' y) (hdisjoint : names.Disjoint names')
    (hrun : (do x; y).run state = .ok () last) :
    ∃ swapped, (do y; x).run state = .ok () swapped
      ∧ ∀ channel, last.AgreesOn channel swapped := by
  obtain ⟨u, middle, hxRun, hyRun⟩ := run_bind_eq_ok.1 hrun
  -- The second computation does not notice whether the first one has been there.
  have hbefore : AgreesOnAll names' middle state := fun channel hchannel =>
    (RunState.equivalence_agreesOn channel).symm
      (hx.agreesOn hxRun fun hmem => hdisjoint hmem hchannel)
  obtain ⟨early, hyEarly, hsecond⟩ := hy.inside hbefore hyRun
  -- Neither does the first one notice that the second one has been there.
  have hafter : AgreesOnAll names state early := fun channel hchannel =>
    hy.agreesOn hyEarly fun hmem => hdisjoint hchannel hmem
  obtain ⟨swapped, hxLate, hfirst⟩ := hx.inside hafter hxRun
  refine ⟨swapped, run_bind_eq_ok.2 ⟨(), early, hyEarly, hxLate⟩, fun channel => ?_⟩
  have heq := RunState.equivalence_agreesOn channel
  by_cases hmem : channel ∈ names
  · have hkept : middle.AgreesOn channel last :=
      hy.agreesOn hyRun fun hmem' => hdisjoint hmem hmem'
    exact heq.trans (heq.symm hkept) (hfirst channel hmem)
  · have hkept : early.AgreesOn channel swapped := hx.agreesOn hxLate hmem
    refine heq.trans ?_ hkept
    by_cases hmem' : channel ∈ names'
    · exact hsecond channel hmem'
    · -- Nothing has happened on this channel at all.
      have hlast := heq.trans (hx.agreesOn hxRun hmem) (hy.agreesOn hyRun hmem')
      exact heq.trans (heq.symm hlast) (hy.agreesOn hyEarly hmem')

/-! ## Statements are confined to their elements -/

/-- What does the same on every channel, whichever it is about, does so on several at once. -/
theorem simulated_agreesOnAll {x : Run α} (hnames : names ≠ [])
    (h : ∀ channel, Simulated (AgreesOn channel) x x) : Simulated (AgreesOnAll names) x x :=
  simulated_forall (List.exists_mem_of_ne_nil names hnames) fun channel _ => h channel

theorem simulated_onTimelines_all {x : EStateM TimelineError Store α}
    (h : Simulated (Store.AgreesOnAll names) x x) :
    Simulated (AgreesOnAll names) (onTimelines x) (onTimelines x) := by
  refine simulated_onTimelines_of h ?_ ?_
  · exact fun _ _ hagrees name hname => (hagrees name hname).timelines
  intro state other store store' hagrees hstores name hname
  have hbefore := hagrees name hname
  exact ⟨hbefore.environment, hbefore.random, hbefore.streams, hstores name hname⟩

theorem simulated_execute_all {statement : Statement} (h : statement.ActsOnElements) :
    Simulated (AgreesOnAll statement.elements) (execute setup statement)
      (execute setup statement) := by
  have hcalls : ∀ (change : Timeline.Edit) (elements : List String),
      Simulated (AgreesOnAll elements)
        (onTimelines (Store.editAll setup.hardware change elements))
        (onTimelines (Store.editAll setup.hardware change elements)) := fun change elements =>
    simulated_onTimelines_all (Store.simulated_editAll_all change (List.Subset.refl elements))
  cases statement with
  | play pulse element amplitude length =>
      refine simulated_forall ⟨element, List.mem_singleton.2 rfl⟩ fun name hname => ?_
      cases List.mem_singleton.1 hname
      exact simulated_execute trivial trivial (if_pos rfl)
  | rampToZero element length =>
      refine simulated_forall ⟨element, List.mem_singleton.2 rfl⟩ fun name hname => ?_
      cases List.mem_singleton.1 hname
      exact simulated_execute trivial trivial (if_pos rfl)
  | wait length elements =>
      rw [execute, wait_of_ne_nil setup length h]
      refine simulated_bind (simulated_duration ?_) fun samples => hcalls _ elements
      exact simulated_agreesOnAll h fun channel => simulated_value channel length
  | frameRotation angle elements =>
      rw [execute]
      refine simulated_bind ?_ fun v => hcalls _ elements
      exact simulated_agreesOnAll h fun channel => simulated_value channel angle
  | resetPhase elements =>
      rw [execute]
      exact hcalls _ elements
  | _ => exact h.elim

theorem confinedTo_execute {statement : Statement} (h : statement.ActsOnElements)
    (hfree : ∀ e ∈ statement.expressions, e.CallFree) :
    ConfinedTo statement.elements (execute setup statement) where
  inside := simulated_execute_all h
  outside := fun _ hchannel =>
    stepwise_execute_of_left_out ⟨h.isLocal, fun _ => hfree⟩ (h.onChannel?_eq_none hchannel)

theorem executeBlock_pair (first second : Statement) :
    executeBlock setup [first, second] = (do execute setup first; execute setup second) := by
  rw [executeBlock, executeBlock_singleton]

/-- **Statements on disjoint elements commute.** Two statements that act on elements that they name,
    call no functions and have no element in common succeed in one order if and only if they do in
    the other one, and then with the same variables, streams, generators and timelines. -/
theorem disjoint_statements_commute (setup : Setup) (state : RunState) {first second : Statement}
    (hfirst : first.ActsOnElements) (hsecond : second.ActsOnElements)
    (hfree : ∀ e ∈ first.expressions ++ second.expressions, e.CallFree)
    (hdisjoint : first.elements.Disjoint second.elements) :
    ((∃ last, (executeBlock setup [first, second]).run state = .ok () last)
      ↔ ∃ last, (executeBlock setup [second, first]).run state = .ok () last)
    ∧ ∀ last swapped, (executeBlock setup [first, second]).run state = .ok () last →
        (executeBlock setup [second, first]).run state = .ok () swapped →
          last.environment = swapped.environment ∧ last.streams = swapped.streams
            ∧ last.random = swapped.random
            ∧ ∀ channel, last.timelines.find? channel = swapped.timelines.find? channel := by
  obtain ⟨hfreeFirst, hfreeSecond⟩ := List.forall_mem_append.1 hfree
  have hconfined : ConfinedTo first.elements (execute setup first) :=
    confinedTo_execute hfirst hfreeFirst
  have hconfined' : ConfinedTo second.elements (execute setup second) :=
    confinedTo_execute hsecond hfreeSecond
  rw [executeBlock_pair, executeBlock_pair]
  refine ⟨⟨?_, ?_⟩, ?_⟩
  · rintro ⟨last, hrun⟩
    obtain ⟨swapped, hswapped, -⟩ := hconfined.swap hconfined' hdisjoint hrun
    exact ⟨swapped, hswapped⟩
  · rintro ⟨last, hrun⟩
    have hdisjoint' : second.elements.Disjoint first.elements :=
      fun _ hmem hmem' => hdisjoint hmem' hmem
    obtain ⟨swapped, hswapped, -⟩ := hconfined'.swap hconfined hdisjoint' hrun
    exact ⟨swapped, hswapped⟩
  · intro last other hrun hother
    obtain ⟨swapped, hswapped, hagrees⟩ := hconfined.swap hconfined' hdisjoint hrun
    cases hother.symm.trans hswapped
    -- To agree on any channel is to agree on all that belongs to none.
    have hany := hagrees ""
    refine ⟨hany.environment, hany.streams, hany.random, ?_⟩
    exact fun channel => (hagrees channel).timelines

/-- A ramp on one element and two waits for the other one may be exchanged; only the order in which
    the elements are touched tells which statement came first. -/
theorem exchange_of_ramp_and_wait :
    let waiting : Statement := .wait (.literal "1" none) ["flux", "flux"]
    let state : RunState := ⟨.empty, .empty, .empty, .empty⟩
    ∃ last swapped,
      (executeBlock shortPulses [scaledRamp, waiting]).run state = .ok () last
      ∧ (executeBlock shortPulses [waiting, scaledRamp]).run state = .ok () swapped
      ∧ last.timelines.channels = ["q1", "flux"] ∧ swapped.timelines.channels = ["flux", "q1"]
      ∧ swapped.timelines.find? "q1" = last.timelines.find? "q1"
      ∧ (last.timelines.find? "flux").map Timeline.cursor = some 8
      ∧ (swapped.timelines.find? "flux").map Timeline.cursor = some 8 := by
  intro waiting state
  have hramp : scaledRamp.ActsOnElements := trivial
  have hwaiting : waiting.ActsOnElements := List.cons_ne_nil _ _
  have hfree : ∀ e ∈ scaledRamp.expressions ++ waiting.expressions, e.CallFree := by decide
  have hdisjoint : scaledRamp.elements.Disjoint waiting.elements := by
    simp [scaledRamp, waiting, Statement.elements]
  obtain ⟨hboth, hsame⟩ :=
    disjoint_statements_commute shortPulses state hramp hwaiting hfree hdisjoint
  have hends : (stateIfOk? (executeBlock shortPulses [scaledRamp, waiting]) state).map
      (fun last => (last.timelines.channels, (last.timelines.find? "flux").map Timeline.cursor))
        = some (["q1", "flux"], some 8) := by decide +kernel
  obtain ⟨last, hlast, hseen⟩ := Option.map_eq_some_iff.1 hends
  obtain ⟨u, hrun⟩ := stateIfOk?_eq_some_iff.1 hlast
  obtain ⟨hchannels, hcursor⟩ := Prod.mk.inj hseen
  obtain ⟨swapped, hswapped⟩ := hboth.1 ⟨last, hrun⟩
  obtain ⟨-, -, -, htimelines⟩ := hsame last swapped hrun hswapped
  have horder : (stateIfOk? (executeBlock shortPulses [waiting, scaledRamp]) state).map
      (fun swapped => swapped.timelines.channels) = some ["flux", "q1"] := by decide +kernel
  rw [stateIfOk?_eq_some_iff.2 ⟨(), hswapped⟩] at horder
  refine ⟨last, swapped, hrun, hswapped, hchannels, Option.some.inj horder, ?_, hcursor, ?_⟩
  · exact (htimelines "q1").symm
  · rw [← htimelines "flux"]
    exact hcursor

end Run

end PulseTimeline
