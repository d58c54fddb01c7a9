import PulseTimeline.Proofs.Run.Calls
import PulseTimeline.Proofs.Run.Simulation
import PulseTimeline.Proofs.Store.Agreement

set_option autoImplicit false

/-! # Channels do not disturb one another

Without alignments, measurements and waits for all elements, what happens on other channels shows
neither in the variables, the random numbers and the results nor on the channel itself. A run of the
whole program is therefore simulated by a run of the part that concerns the channel. Where a
statement is left out, its expressions must draw no random numbers, which they only do by calls. -/

namespace PulseTimeline

/-! ## States -/

/-- The states differ in nothing but the timelines of other channels. -/
structure RunState.AgreesOn (channel : String) (state other : RunState) : Prop where
  environment : state.environment = other.environment
  random : state.random = other.random
  streams : state.streams = other.streams
  timelines : state.timelines.AgreesOn channel other.timelines

theorem RunState.equivalence_agreesOn (channel : String) :
    Equivalence (RunState.AgreesOn channel) where
  refl _ := ⟨rfl, rfl, rfl, rfl⟩
  symm h := ⟨h.environment.symm, h.random.symm, h.streams.symm, h.timelines.symm⟩
  trans h h' := ⟨h.environment.trans h'.environment, h.random.trans h'.random,
    h.streams.trans h'.streams, h.timelines.trans h'.timelines⟩

namespace Run

variable {setup : Setup} {channel element : String} {α : Type}

open RunState (AgreesOn)

theorem simulated_value (channel : String) (expression : Expression) :
    Simulated (AgreesOn channel) (value expression) (value expression) :=
  simulated_value_of (fun _ _ h => ⟨h.environment, h.random⟩)
    fun _ _ _ h => ⟨h.environment, rfl, h.streams, h.timelines⟩

theorem simulated_onEnvironment (channel : String) (step : EStateM RunError Environment α) :
    Simulated (AgreesOn channel) (onEnvironment step) (onEnvironment step) :=
  simulated_onEnvironment_of (fun _ _ h => h.environment)
    fun _ _ _ h => ⟨rfl, h.random, h.streams, h.timelines⟩

theorem simulated_onTimelines {x y : EStateM TimelineError Store α}
    (h : Simulated (Store.AgreesOn channel) x y) :
    Simulated (AgreesOn channel) (onTimelines x) (onTimelines y) :=
  simulated_onTimelines_of h (fun _ _ hagrees => hagrees.timelines)
    fun _ _ _ _ hagrees hstores => ⟨hagrees.environment, hagrees.random, hagrees.streams, hstores⟩

theorem simulated_save (channel stream : String) (v : Value) :
    Simulated (AgreesOn channel) (save stream v) (save stream v) := by
  intro state other next u hagrees hrun
  cases hrun
  refine ⟨_, rfl, hagrees.environment, hagrees.random, ?_, hagrees.timelines⟩
  simp only [hagrees.streams]

theorem stepwise_onTimelines_of_agreesOn {x : EStateM TimelineError Store α}
    (h : Stepwise (Store.AgreesOn channel) x) : Stepwise (AgreesOn channel) (onTimelines x) := by
  intro state
  rw [stateAfter_onTimelines]
  exact .single ⟨rfl, rfl, rfl, h.related (Store.equivalence_agreesOn channel) state.timelines⟩

theorem stepwise_value_of_callFree {expression : Expression} (channel : String)
    (hfree : expression.CallFree) : Stepwise (AgreesOn channel) (value expression) := by
  intro state
  have hrandom := (stepwise_evaluate_of_callFree state.environment hfree).related
    eq_equivalence state.random
  rw [stateAfter_value]
  exact .single ⟨rfl, hrandom, rfl, rfl⟩

/-! ## Statements that concern the channel -/

theorem simulated_callAll (setup : Setup) (channel : String) (change : Timeline.Edit)
    (names : List String) :
    Simulated (AgreesOn channel) (onTimelines (Store.editAll setup.hardware change names))
      (onTimelines (Store.editAll setup.hardware change (Statement.occurrences channel names))) :=
  simulated_onTimelines (Store.simulated_editAll setup.hardware channel change names)

theorem simulated_playSamples (setup : Setup) (channel operation : String) (samples : Samples) :
    Simulated (AgreesOn channel) (playSamples setup channel operation samples)
      (playSamples setup channel operation samples) := by
  refine simulated_bind (simulated_onTimelines (Store.simulated_demand setup.hardware channel)) ?_
  intro timeline
  refine simulated_ite (simulated_throw _ _) ?_
  refine simulated_bind (simulated_liftOutcome _) fun _ => ?_
  exact simulated_onTimelines (Store.simulated_edit setup.hardware channel _)

/-- A wait that names its elements does not ask which ones have been touched. -/
theorem wait_of_ne_nil (setup : Setup) (expression : Expression) {elements : List String}
    (h : elements ≠ []) :
    wait setup expression elements = (do
      let samples ← duration setup expression
      onTimelines (Store.editAll setup.hardware (Timeline.delay samples) elements)) := by
  have hnames : elements.isEmpty = false := by simpa using h
  simp only [wait, hnames]
  rfl

/-- What is left of a basic statement does the same on the channel. -/
theorem simulated_execute {statement kept : Statement} (hbasic : statement.IsBasic)
    (hlocal : statement.IsLocal) (hkept : statement.onChannel? channel = some kept) :
    Simulated (AgreesOn channel) (execute setup statement) (execute setup kept) := by
  cases statement with
  | play pulse element amplitude length =>
      simp only [Statement.onChannel?, Option.ite_none_right_eq_some] at hkept
      obtain ⟨rfl, ⟨⟩⟩ := hkept
      rw [execute]
      exact simulated_play (simulated_value element) amplitude length fun samples =>
        simulated_playSamples setup element pulse.name samples
  | measure element operation => exact hlocal.elim
  | align elements => exact hlocal.elim
  | assign target expression =>
      cases hkept
      rw [execute]
      exact simulated_assign (simulated_value channel) target expression
        (simulated_onEnvironment channel)
  | resetPhase elements =>
      obtain ⟨-, rfl⟩ := Statement.restricted?_eq_some_iff.1 hkept
      rw [execute, execute]
      exact simulated_callAll setup channel _ elements
  | rampToZero element length =>
      simp only [Statement.onChannel?, Option.ite_none_right_eq_some] at hkept
      obtain ⟨rfl, ⟨⟩⟩ := hkept
      rw [execute]
      refine simulated_bind
        (simulated_rampToZeroDuration (simulated_value element) element length) fun samples => ?_
      exact simulated_onTimelines (Store.simulated_edit setup.hardware element _)
  | wait length elements =>
      obtain ⟨hnamed, rfl⟩ := Statement.restricted?_eq_some_iff.1 hkept
      -- Neither list is empty, and an empty one would stand for other elements in either run.
      rw [execute, execute, wait_of_ne_nil setup length hlocal, wait_of_ne_nil setup length hnamed]
      refine simulated_bind (simulated_duration (simulated_value channel length)) fun samples => ?_
      exact simulated_callAll setup channel _ elements
  | frameRotation angle elements =>
      obtain ⟨-, rfl⟩ := Statement.restricted?_eq_some_iff.1 hkept
      rw [execute, execute]
      refine simulated_bind (simulated_value channel angle) fun v => ?_
      exact simulated_callAll setup channel _ elements
  | save expression stream =>
      cases hkept
      rw [execute]
      exact simulated_bind (simulated_value channel expression) fun v =>
        simulated_save channel stream v
  | branch | loop | switch | strictTiming => exact hbasic.elim

/-! ## Statements that are left out -/

theorem stepwise_playSamples_of_ne (operation : String) (samples : Samples)
    (h : channel ≠ element) :
    Stepwise (AgreesOn channel) (playSamples setup element operation samples) := by
  refine stepwise_bind (stepwise_onTimelines_of_agreesOn (Store.stepwise_demand_of_ne h)) ?_
  intro timeline
  refine stepwise_ite (stepwise_throw _) ?_
  refine stepwise_bind (stepwise_liftOutcome _) fun _ => ?_
  exact stepwise_onTimelines_of_agreesOn (Store.stepwise_edit_of_ne _ h)

theorem stepwise_callAll_of_not_mem {names : List String} (change : Timeline.Edit)
    (h : channel ∉ names) :
    Stepwise (AgreesOn channel) (onTimelines (Store.editAll setup.hardware change names)) :=
  stepwise_onTimelines_of_agreesOn (Store.stepwise_editAll_of_not_mem change h)

/-- What is left out shows nowhere but on other channels. -/
theorem stepwise_execute_of_left_out {statement : Statement}
    (hseparable : statement.IsSeparable channel) (hout : statement.onChannel? channel = none) :
    Stepwise (AgreesOn channel) (execute setup statement) := by
  have hvalues : ∀ e ∈ statement.expressions, Stepwise (AgreesOn channel) (value e) :=
    fun e he => stepwise_value_of_callFree channel (hseparable.2 hout e he)
  cases statement with
  | play pulse element amplitude length =>
      have hne : channel ≠ element := by
        rintro rfl
        simp [Statement.onChannel?] at hout
      rw [execute]
      refine stepwise_play hvalues fun samples => ?_
      exact stepwise_playSamples_of_ne pulse.name samples hne
  | rampToZero element length =>
      have hne : channel ≠ element := by
        rintro rfl
        simp [Statement.onChannel?] at hout
      rw [execute]
      refine stepwise_bind (stepwise_rampToZeroDuration element fun e he =>
        hvalues e (Option.mem_toList.2 he)) fun samples => ?_
      exact stepwise_onTimelines_of_agreesOn (Store.stepwise_edit_of_ne _ hne)
  | wait length elements =>
      have hother : channel ∉ elements := Statement.restricted?_eq_none_iff.1 hout
      rw [execute, wait_of_ne_nil setup length hseparable.1]
      refine stepwise_bind (stepwise_duration (hvalues length (List.mem_singleton.2 rfl))) ?_
      exact fun samples => stepwise_callAll_of_not_mem _ hother
  | frameRotation angle elements =>
      have hother : channel ∉ elements := Statement.restricted?_eq_none_iff.1 hout
      rw [execute]
      refine stepwise_bind (hvalues angle (List.mem_singleton.2 rfl)) fun v => ?_
      exact stepwise_callAll_of_not_mem _ hother
  | resetPhase elements =>
      rw [execute]
      exact stepwise_callAll_of_not_mem _ (Statement.restricted?_eq_none_iff.1 hout)
  -- Whatever else there is concerns every channel and is never left out.
  | _ => simp [Statement.onChannel?] at hout

/-! ## Blocks -/

/-- **Blocks can be restricted.** Whatever a block does to the variables, to the results and on a
    channel, its part that concerns the channel does from any state that agrees so far. -/
theorem simulated_executeBlock (setup : Setup) (channel : String) (block : List Statement)
    (hseparable : ∀ statement ∈ block, statement.Everywhere (Statement.IsSeparable channel)) :
    Simulated (AgreesOn channel) (executeBlock setup block)
      (executeBlock setup (Statement.blockOnChannel channel block)) := by
  rw [Statement.blockOnChannel_eq]
  refine simulated_executeBlock_thinned (RunState.equivalence_agreesOn channel) ?_
  intro statement hmem
  refine thinsWell_everywhere (RunState.equivalence_agreesOn channel)
    (Statement.isThinning_onChannel? channel) (simulated_value channel) ?_
    (hseparable statement hmem)
  intro basic hbasicSeparable hbasic
  exact ⟨fun _ hkept => simulated_execute hbasic hbasicSeparable.1 hkept,
    stepwise_execute_of_left_out hbasicSeparable⟩

end Run

/-! ## Programs -/

/-- **Channels are independent.** Between synchronization points, a program that succeeds also does
    so with only the part that concerns one channel, and leaves the same variables, the same results
    and the same timeline of that channel. -/
theorem channels_are_independent {program : Program} {setup : Setup} {channel : String}
    {outcome : Outcome} (hseparable : program.IsSeparable channel)
    (h : program.run setup = .ok outcome) :
    ∃ alone, (program.onChannel channel).run setup = .ok alone
      ∧ alone.environment = outcome.environment ∧ alone.streams = outcome.streams
      ∧ alone.timelines.find? channel = outcome.timelines.find? channel := by
  obtain ⟨state, hinitial, h⟩ := except_bind_eq_ok.1 h
  split at h
  · next u last hrun =>
      cases h
      have hagree := (RunState.equivalence_agreesOn channel).refl state
      obtain ⟨restricted, hrestricted, hagrees⟩ :=
        Run.simulated_executeBlock setup channel program.body hseparable hagree hrun
      have hblock : Run.executeBlock setup (program.onChannel channel).body state
          = .ok u restricted := hrestricted
      refine ⟨⟨restricted.timelines, restricted.environment, restricted.streams⟩, ?_,
        hagrees.environment.symm, hagrees.streams.symm, hagrees.timelines.symm⟩
      refine except_bind_eq_ok.2 ⟨state, hinitial, ?_⟩
      simp only [hblock]
  · cases h

/-- The element that waits twice does not notice that its neighbour ramps down and waits once. -/
theorem independence_of_ramped_neighbour :
    let cycles : Expression := .literal "3" (some .int)
    let body : List Statement :=
      [.rampToZero "qe2" none, .wait cycles ["qe1", "qe2", "qe1"], .save cycles "r"]
    let program : Program := ⟨[.strictTiming body], []⟩
    let setup : Setup :=
      ⟨⟨.ofList [("qe1", ⟨none, none, .empty, none⟩), ("qe2", ⟨none, none, .empty, none⟩)], .empty,
        .empty⟩, .empty, .standard⟩
    program.IsSeparable "qe1"
      ∧ ∃ outcome alone, program.run setup = .ok outcome
        ∧ (program.onChannel "qe1").run setup = .ok alone
        ∧ outcome.timelines.channels = ["qe2", "qe1"]
        ∧ alone.environment = outcome.environment ∧ alone.streams = outcome.streams
        ∧ ∃ timeline, alone.timelines.find? "qe1" = some timeline ∧ timeline.cursor = 24 := by
  intro cycles body program setup
  have hbody : ∀ statement ∈ body, statement.Everywhere (Statement.IsSeparable "qe1") := by
    refine List.forall_mem_cons.2 ⟨⟨⟨trivial, nofun⟩, nofun⟩, ?_⟩
    refine List.forall_mem_cons.2 ⟨⟨⟨nofun, nofun⟩, nofun⟩, ?_⟩
    exact List.forall_mem_singleton.2 ⟨⟨trivial, nofun⟩, nofun⟩
  have hseparable : program.IsSeparable "qe1" :=
    List.forall_mem_singleton.2 ⟨⟨trivial, nofun⟩, hbody⟩
  have hrun : ∃ outcome, program.run setup = .ok outcome := ⟨_, rfl⟩
  obtain ⟨outcome, hrun⟩ := hrun
  obtain ⟨alone, halone, hvariables, hstreams, htimeline⟩ :=
    channels_are_independent hseparable hrun
  refine ⟨hseparable, outcome, alone, hrun, halone, ?_, hvariables, hstreams, ?_⟩
  · cases hrun
    rfl
  · rw [htimeline]
    cases hrun
    exact ⟨_, rfl, rfl⟩

end PulseTimeline
