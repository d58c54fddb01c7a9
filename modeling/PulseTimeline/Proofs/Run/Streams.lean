import PulseTimeline.Proofs.Run.Calls
import PulseTimeline.Proofs.Run.Effects
import PulseTimeline.Proofs.Run.Simulation

set_option autoImplicit false

/-! # Streams do not act back

Nothing in a run ever reads a stream. A save therefore shows nowhere but in the streams, unless the
evaluation of its value draws random numbers; and a program without its saves, none of whose values
has calls in it, does the same on its variables and timelines. -/

namespace PulseTimeline

/-- The states differ in nothing but their streams. -/
structure RunState.AgreesButStreams (state other : RunState) : Prop where
  environment : state.environment = other.environment
  timelines : state.timelines = other.timelines
  random : state.random = other.random

theorem RunState.equivalence_agreesButStreams : Equivalence RunState.AgreesButStreams where
  refl _ := ⟨rfl, rfl, rfl⟩
  symm h := ⟨h.environment.symm, h.timelines.symm, h.random.symm⟩
  trans h h' := ⟨h.environment.trans h'.environment, h.timelines.trans h'.timelines,
    h.random.trans h'.random⟩

namespace Run

variable {setup : Setup} {statement : Statement} {α : Type}

open RunState (AgreesButStreams)

/-! ## Statements that stay -/

theorem value_agreesButStreams (expression : Expression) :
    Simulated AgreesButStreams (value expression) (value expression) :=
  simulated_value_of (fun _ _ h => ⟨h.environment, h.random⟩)
    fun _ _ _ h => ⟨h.environment, h.timelines, rfl⟩

theorem onEnvironment_agreesButStreams (step : EStateM RunError Environment α) :
    Simulated AgreesButStreams (onEnvironment step) (onEnvironment step) :=
  simulated_onEnvironment_of (fun _ _ h => h.environment)
    fun _ _ _ h => ⟨rfl, h.timelines, h.random⟩

theorem onTimelines_agreesButStreams (step : EStateM TimelineError Store α) :
    Simulated AgreesButStreams (onTimelines step) (onTimelines step) :=
  simulated_onTimelines_of (simulated_eq step) (fun _ _ h => h.timelines)
    fun _ _ _ _ h hstores => ⟨h.environment, hstores, h.random⟩

theorem playSamples_agreesButStreams (element operation : String) (samples : Samples) :
    Simulated AgreesButStreams (playSamples setup element operation samples)
      (playSamples setup element operation samples) := by
  refine simulated_bind (onTimelines_agreesButStreams _) fun timeline => ?_
  refine simulated_ite (simulated_throw _ _) ?_
  exact simulated_bind (simulated_liftOutcome _) fun _ => onTimelines_agreesButStreams _

theorem measure_agreesButStreams (element : String) (operation : Option String) :
    Simulated AgreesButStreams (measure setup element operation)
      (measure setup element operation) := by
  have hmark : Simulated AgreesButStreams _ (do
      onTimelines (Store.edit setup.hardware element (Timeline.measure operation))
      onTimelines (Store.restartSharing setup element)) :=
    simulated_bind (onTimelines_agreesButStreams _) fun _ => onTimelines_agreesButStreams _
  cases operation with
  | none => exact hmark
  | some name =>
      refine simulated_bind (simulated_liftOutcome _) fun samples => ?_
      exact simulated_bind (playSamples_agreesButStreams element name samples) fun _ => hmark

/-- A wait asks which elements have been touched, and both states give the same answer. -/
theorem wait_agreesButStreams (length : Expression) (elements : List String) :
    Simulated AgreesButStreams (wait setup length elements) (wait setup length elements) := by
  refine simulated_bind (simulated_duration (value_agreesButStreams length)) fun samples => ?_
  refine simulated_get_bind fun state other hagrees => ?_
  rw [hagrees.timelines]
  exact onTimelines_agreesButStreams _

theorem execute_agreesButStreams (hbasic : statement.IsBasic) (hnoSave : statement.IsNoSave) :
    Simulated AgreesButStreams (execute setup statement) (execute setup statement) := by
  cases statement with
  | play pulse element amplitude length =>
      rw [execute]
      exact simulated_play value_agreesButStreams amplitude length fun samples =>
        playSamples_agreesButStreams element pulse.name samples
  | measure element operation =>
      rw [execute]
      exact measure_agreesButStreams element operation
  | align elements =>
      rw [execute]
      exact onTimelines_agreesButStreams _
  | assign target expression =>
      rw [execute]
      exact simulated_assign value_agreesButStreams target expression
        onEnvironment_agreesButStreams
  | resetPhase elements =>
      rw [execute]
      exact onTimelines_agreesButStreams _
  | rampToZero element length =>
      rw [execute]
      refine simulated_bind
        (simulated_rampToZeroDuration value_agreesButStreams element length) fun samples => ?_
      exact onTimelines_agreesButStreams _
  | wait length elements =>
      rw [execute]
      exact wait_agreesButStreams length elements
  | frameRotation angle elements =>
      rw [execute]
      exact simulated_bind (value_agreesButStreams angle) fun v => onTimelines_agreesButStreams _
  | save value stream => exact hnoSave.elim
  | branch | loop | switch | strictTiming => exact hbasic.elim

/-! ## Saves that are left out -/

theorem save_agreesButStreams {expression : Expression} (hfree : expression.CallFree)
    (stream : String) :
    Stepwise AgreesButStreams (execute setup (.save expression stream)) := by
  have hvalue : Stepwise AgreesButStreams (value expression) := by
    intro state
    have hrandom := (stepwise_evaluate_of_callFree state.environment hfree).related
      eq_equivalence state.random
    rw [stateAfter_value]
    exact .single ⟨rfl, rfl, hrandom⟩
  rw [execute]
  exact stepwise_bind hvalue fun v => fun state => .single ⟨rfl, rfl, rfl⟩

/-- A block is simulated by the block without its saves. -/
theorem simulated_executeBlock_withoutSaves {block : List Statement}
    (hfree : ∀ statement ∈ block, statement.Everywhere fun inner =>
      ∀ value stream, inner = .save value stream → value.CallFree) :
    Simulated AgreesButStreams (executeBlock setup block)
      (executeBlock setup (Statement.blockWithoutSaves block)) := by
  rw [Statement.blockWithoutSaves_eq]
  refine simulated_executeBlock_thinned RunState.equivalence_agreesButStreams ?_
  intro statement hmem
  refine thinsWell_everywhere RunState.equivalence_agreesButStreams
    Statement.isThinning_withoutSaves? value_agreesButStreams ?_ (hfree statement hmem)
  intro basic hcalls hbasic
  rcases Statement.withoutSaves?_of_basic hbasic with ⟨hsame, hnoSave⟩ | ⟨value, stream, rfl, hout⟩
  · exact .of_kept hsame (execute_agreesButStreams hbasic hnoSave)
  · refine ⟨fun left hleft => ?_, fun _ => ?_⟩
    · rw [hout] at hleft
      cases hleft
    · exact save_agreesButStreams (hcalls value stream rfl) stream

/-- Where nothing is saved, the streams stay as they are. -/
theorem streams_of_noSave (setup : Setup) {block : List Statement}
    (h : ∀ statement ∈ block, statement.Everywhere Statement.IsNoSave) (state : RunState) :
    (stateAfter (executeBlock setup block) state).streams = state.streams := by
  refine kept_by_executeBlock (f := RunState.streams) (fun _ _ => rfl) ?_ h state
  intro statement hnoSave state next heffect
  cases heffect with
  | saved stream hsaves values =>
      cases statement with
      | save => exact hnoSave.elim
      | _ => exact hsaves.elim
  | drawn | assigned | played => rfl

end Run

/-! ## Programs -/

/-- **Streams do not act back.** If no value that is saved has a call in it, a program that succeeds
    also does so without its saves, and leaves the same timelines, the same variables and no
    streams. -/
theorem streams_do_not_act_back {program : Program} {setup : Setup} {outcome : Outcome}
    (hcalls : program.SavesWithoutCalls) (h : program.run setup = .ok outcome) :
    program.withoutSaves.run setup = .ok ⟨outcome.timelines, outcome.environment, .empty⟩ := by
  obtain ⟨state, last, hinitial, hrun, rfl⟩ := Program.run_eq_ok_iff.1 h
  have hagree := RunState.equivalence_agreesButStreams.refl state
  obtain ⟨alone, halone, hagrees⟩ := Run.simulated_executeBlock_withoutSaves hcalls hagree hrun
  have hstreams : alone.streams = .empty := by
    obtain ⟨environment, rfl⟩ := Program.initialState_eq_ok hinitial
    have hkept := Run.streams_of_noSave setup
      (Statement.noSave_blockWithoutSaves program.body) ⟨environment, .empty, .empty, .empty⟩
    rwa [stateAfter_of_ok halone] at hkept
  refine Program.run_eq_ok_iff.2 ⟨state, alone, hinitial, halone, ?_⟩
  rw [hagrees.timelines, hagrees.environment, hstreams]

/-- The rounds of a loop are counted in a variable and in a stream, and both in its update. -/
theorem count_without_stream :
    let index : Expression := .reference "i"
    let one : Expression := .literal "1" (some .int)
    let next : List Statement :=
      [.save index "rounds", .assign (.reference "i") (.binary index .add one)]
    let guard : Expression := .binary index .lessThan (.literal "2" (some .int))
    let program : Program :=
      ⟨[.loop [.save one "first"] guard next [.wait one ["qe1"]]], [.scalar "i" .int (.int 0)]⟩
    let setup : Setup :=
      ⟨⟨.ofList [("qe1", ⟨none, none, .empty, none⟩)], .empty, .empty⟩, .empty, .standard⟩
    ∃ outcome, program.run setup = .ok outcome
      ∧ outcome.streams = .ofList [("first", [.int 1]), ("rounds", [.int 0, .int 1])]
      ∧ program.withoutSaves.run setup
        = .ok ⟨outcome.timelines, outcome.environment, .empty⟩ := by
  intro index one next guard program setup
  have hindex : index.CallFree := by decide
  have hone : one.CallFree := by decide
  have hcalls : program.SavesWithoutCalls := by
    refine List.forall_mem_singleton.2 ⟨nofun, ?_⟩
    refine List.forall_mem_cons.2 ⟨Statement.everywhere_of_isBasic trivial ?_, ?_⟩
    · rintro _ _ ⟨⟩
      exact hone
    · refine List.forall_mem_cons.2 ⟨Statement.everywhere_of_isBasic trivial ?_, ?_⟩
      · rintro _ _ ⟨⟩
        exact hindex
      · exact List.forall_mem_cons.2 ⟨Statement.everywhere_of_isBasic trivial nofun,
          List.forall_mem_singleton.2 (Statement.everywhere_of_isBasic trivial nofun)⟩
  have hstreams : (program.run setup).toOption.map Outcome.streams
      = some (.ofList [("first", [.int 1]), ("rounds", [.int 0, .int 1])]) := by decide +kernel
  cases hrun : program.run setup with
  | error e =>
      rw [hrun] at hstreams
      cases hstreams
  | ok outcome =>
      rw [hrun] at hstreams
      exact ⟨outcome, rfl, Option.some.inj hstreams, streams_do_not_act_back hcalls hrun⟩

end PulseTimeline
