import Mathlib.Data.Set.Insert
import PulseTimeline.Proofs.Store.Steps
import PulseTimeline.Proofs.Syntax
import PulseTimeline.Run.Execute

set_option autoImplicit false

/-! # The steps of a run

All that a run ever does to its state is one of a few things: it draws random numbers, assigns to a
variable, does a step on the timelines, or saves a value. `stepwise_execute` says so for every
statement, whether it succeeds or fails; an invariant of runs is then an invariant of these
steps. -/

namespace PulseTimeline

/-! ## Steps -/

/-- What a run does to its variables. -/
inductive Environment.Step (environment : Environment) : Environment → Prop where
  | assigned (name : String) (value : Value) :
    Step environment (stateAfter (assign name value) environment)
  | assignedElement (name : String) (index : Int64) (value : Value) :
    Step environment (stateAfter (assignElement name index value) environment)

namespace Run

/-- What a run does to its state. -/
inductive Step (setup : Setup) (state : RunState) : RunState → Prop where
  | drawn (random : Random.Pool) : Step setup state { state with random }
  | assigned {environment : Environment} (h : Environment.Step state.environment environment) :
    Step setup state { state with environment }
  | played {timelines : Store} (h : Store.Step setup state.timelines timelines) :
    Step setup state { state with timelines }
  | saved (stream : String) (v : Value) : Step setup state (stateAfter (save stream v) state)

variable {setup : Setup} {α : Type}

/-! ## The parts of the state -/

section

variable {state next : RunState} {a : α}

theorem run_onEnvironment_eq_ok_iff {step : EStateM RunError Environment α} :
    (onEnvironment step).run state = .ok a next
      ↔ ∃ environment, step.run state.environment = .ok a environment
        ∧ next = { state with environment } := by
  simp only [EStateM.run, onEnvironment]
  cases step state.environment <;> simp [eq_comm]

theorem run_onTimelines_eq_ok_iff {step : EStateM TimelineError Store α} :
    (onTimelines step).run state = .ok a next
      ↔ ∃ timelines, step.run state.timelines = .ok a timelines
        ∧ next = { state with timelines } := by
  simp only [EStateM.run, onTimelines]
  cases step state.timelines <;> simp [eq_comm]

theorem run_value_eq_ok_iff {expression : Expression} {v : Value} :
    (value expression).run state = .ok v next
      ↔ ∃ random, (evaluate state.environment expression).run state.random = .ok v random
        ∧ next = { state with random } := by
  simp only [EStateM.run, value]
  cases evaluate state.environment expression state.random <;> simp [eq_comm]

end

theorem stateAfter_onEnvironment (step : EStateM RunError Environment α) (state : RunState) :
    stateAfter (onEnvironment step) state
      = { state with environment := stateAfter step state.environment } := by
  simp only [stateAfter, EStateM.run, onEnvironment]
  cases step state.environment <;> rfl

theorem stateAfter_onTimelines (step : EStateM TimelineError Store α) (state : RunState) :
    stateAfter (onTimelines step) state
      = { state with timelines := stateAfter step state.timelines } := by
  simp only [stateAfter, EStateM.run, onTimelines]
  cases step state.timelines <;> rfl

theorem stateAfter_value (expression : Expression) (state : RunState) :
    stateAfter (value expression) state
      = { state with
          random := stateAfter (evaluate state.environment expression) state.random } := by
  simp only [stateAfter, EStateM.run, value]
  cases evaluate state.environment expression state.random <;> rfl

theorem stepwise_onEnvironment {step : EStateM RunError Environment α}
    (h : ∀ environment, Environment.Step environment (stateAfter step environment)) :
    Stepwise (Step setup) (onEnvironment step) := by
  intro state
  rw [stateAfter_onEnvironment]
  exact .single (.assigned (h state.environment))

theorem stepwise_onTimelines {step : EStateM TimelineError Store α}
    (h : Stepwise (Store.Step setup) step) : Stepwise (Step setup) (onTimelines step) := by
  intro state
  rw [stateAfter_onTimelines]
  -- A step of the store is a step of the state whatever else the state holds.
  have hlift : ∀ store next, Store.Step setup store next →
      Step setup { state with timelines := store } { state with timelines := next } := by
    intro store next hnext
    exact @Step.played setup { state with timelines := store } next hnext
  exact Relation.ReflTransGen.lift (fun store => { state with timelines := store }) hlift _ _
    (h state.timelines)

/-- An evaluation may have drawn numbers even where it fails in the end. -/
theorem stepwise_value (expression : Expression) : Stepwise (Step setup) (value expression) := by
  intro state
  rw [stateAfter_value]
  exact .single (.drawn _)

/-! ## The expressions of statements

What an operation does apart from evaluating its expressions is left open here: its steps are of a
kind if those of its parts are. -/

section

variable {R : RunState → RunState → Prop} {expression : Expression}

theorem stepwise_integer (h : Stepwise R (value expression)) : Stepwise R (integer expression) :=
  stepwise_bind h fun _ => stepwise_liftOutcome _

theorem stepwise_condition (h : Stepwise R (value expression)) :
    Stepwise R (condition expression) :=
  stepwise_bind h fun _ => stepwise_pure _

theorem stepwise_duration (h : Stepwise R (value expression)) :
    Stepwise R (duration setup expression) :=
  stepwise_bind (stepwise_integer h) fun _ => stepwise_liftOutcome _

theorem stepwise_playDuration {length : Option Expression}
    (h : ∀ e ∈ length, Stepwise R (value e)) : Stepwise R (playDuration setup length) := by
  cases length with
  | none => exact stepwise_pure none
  | some expression =>
      refine stepwise_bind (stepwise_duration (h expression rfl)) fun samples => ?_
      exact stepwise_bind (stepwise_liftOutcome _) fun _ => stepwise_pure _

theorem stepwise_playAmplitude {amplitude : Option Expression}
    (h : ∀ e ∈ amplitude, Stepwise R (value e)) : Stepwise R (playAmplitude amplitude) := by
  cases amplitude with
  | none => exact stepwise_pure none
  | some expression => exact stepwise_bind (h expression rfl) fun _ => stepwise_pure _

theorem stepwise_pulseSamples (element : String) (duration : Option Nat) (amplitude : Option Float)
    {pulse : Pulse} (h : ∀ e ∈ pulse.expressions, Stepwise R (value e)) :
    Stepwise R (pulseSamples setup element duration amplitude pulse) := by
  cases pulse with
  | named operation => exact stepwise_liftOutcome _
  | ramp slope =>
      have hslope := h slope (List.mem_singleton.2 rfl)
      exact stepwise_bind hslope fun _ => stepwise_liftOutcome _

theorem stepwise_play {pulse : Pulse} {element : String} {amplitude length : Option Expression}
    (h : ∀ e ∈ (Statement.play pulse element amplitude length).expressions, Stepwise R (value e))
    (hplayed : ∀ samples, Stepwise R (playSamples setup element pulse.name samples)) :
    Stepwise R (play setup pulse element amplitude length) := by
  simp only [Statement.expressions, List.mem_append, Option.mem_toList] at h
  refine stepwise_bind (stepwise_playDuration fun e he => h e (Or.inr he)) fun duration => ?_
  refine stepwise_bind (stepwise_playAmplitude fun e he => h e (Or.inl (Or.inr he))) ?_
  intro factor
  refine stepwise_bind (stepwise_pulseSamples element duration factor
    fun e he => h e (Or.inl (Or.inl he))) fun samples => ?_
  exact hplayed samples

theorem stepwise_rampToZeroDuration (element : String) {length : Option Expression}
    (h : ∀ e ∈ length, Stepwise R (value e)) :
    Stepwise R (rampToZeroDuration setup element length) := by
  cases length with
  | none => exact stepwise_pure _
  | some expression => exact stepwise_duration (h expression rfl)

theorem stepwise_matchesCase (subject : Value) (h : Stepwise R (value expression)) :
    Stepwise R (matchesCase subject expression) :=
  stepwise_bind h fun _ => stepwise_bind (stepwise_liftOutcome _) fun _ => stepwise_pure _

theorem stepwise_repeatWhile {limit remaining : Nat} {condition : Run Bool} {body : Run Unit}
    (hcondition : Stepwise R condition) (hbody : Stepwise R body) :
    Stepwise R (repeatWhile limit condition body remaining) := by
  induction remaining with
  | zero =>
      refine stepwise_bind hcondition fun holds => ?_
      exact stepwise_ite (stepwise_throw _) (stepwise_pure ())
  | succ remaining ih =>
      refine stepwise_bind hcondition fun holds => ?_
      exact stepwise_ite (stepwise_bind hbody fun _ => ih) (stepwise_pure ())

end

/-! ## The operations of statements -/

theorem stepwise_call (channel : String) (call : Timeline.Call)
    (hpermitted : call.Permitted setup.settings) :
    Stepwise (Step setup) (onTimelines (Store.edit setup.hardware channel call.edit)) :=
  stepwise_onTimelines (Store.stepwise_of_accesses (Store.stepwise_edit channel hpermitted))

theorem stepwise_callAll (names : List String) (call : Timeline.Call)
    (hpermitted : call.Permitted setup.settings) :
    Stepwise (Step setup) (onTimelines (Store.editAll setup.hardware call.edit names)) := by
  refine stepwise_onTimelines (Store.stepwise_of_accesses (Store.stepwise_editAll names ?_))
  exact fun channel => Store.stepwise_edit channel hpermitted

theorem stepwise_save (stream : String) (v : Value) : Stepwise (Step setup) (save stream v) :=
  fun _ => .single (.saved stream v)

/-- The pulse that reaches the timeline has passed the check of its length. -/
theorem stepwise_playSamples (element operation : String) (samples : Samples) :
    Stepwise (Step setup) (playSamples setup element operation samples) := by
  refine stepwise_bind (stepwise_onTimelines
    (Store.stepwise_of_accesses (Store.stepwise_demand element))) fun timeline => ?_
  refine stepwise_ite (stepwise_throw _) ?_
  refine stepwise_check fun _ hcheck => ?_
  have hcount : samples.quadratures.1.length ≤ setup.settings.maxPulseSamples := by
    rw [Samples.length_quadratures_fst]
    unfold checkPulseLength at hcheck
    split at hcheck
    · cases hcheck
    · next h => exact Nat.not_lt.1 h
  exact stepwise_call element (.playIq operation samples.quadratures.1 samples.quadratures.2) hcount

theorem stepwise_measure (element : String) (operation : Option String) :
    Stepwise (Step setup) (measure setup element operation) := by
  have hmark : Stepwise (Step setup) (do
      onTimelines (Store.edit setup.hardware element (Timeline.measure operation))
      onTimelines (Store.restartSharing setup element)) := by
    refine stepwise_bind (stepwise_call element (.measure operation) trivial) fun _ => ?_
    exact stepwise_onTimelines (Store.stepwise_restartSharing element)
  cases operation with
  | none => exact hmark
  | some name =>
      refine stepwise_bind (stepwise_liftOutcome _) fun samples => ?_
      exact stepwise_bind (stepwise_playSamples element name samples) fun _ => hmark

theorem stepwise_assign (target : Target) (expression : Expression) :
    Stepwise (Step setup) (assign target expression) := by
  refine stepwise_bind (stepwise_value expression) fun v => ?_
  cases target with
  | reference name => exact stepwise_onEnvironment fun _ => .assigned name v
  | cell array index =>
      refine stepwise_bind (stepwise_integer (stepwise_value index)) fun position => ?_
      exact stepwise_onEnvironment fun _ => .assignedElement array position v

theorem stepwise_wait (expression : Expression) (elements : List String) :
    Stepwise (Step setup) (wait setup expression elements) := by
  refine stepwise_bind (stepwise_duration (stepwise_value expression)) fun samples => ?_
  refine stepwise_bind stepwise_get fun state => ?_
  exact stepwise_callAll _ (.delay samples) trivial

theorem stepwise_rotateFrame (angle : Expression) (elements : List String) :
    Stepwise (Step setup) (rotateFrame setup angle elements) := by
  refine stepwise_bind (stepwise_value angle) fun v => ?_
  exact stepwise_callAll elements (.phaseOffset (Cycles.toRadians ⟨v.toReal⟩)) trivial

/-! ## Statements

A statement with blocks does what the statements inside it do, and evaluates expressions in between.
So the steps of a statement are of a kind if evaluations and all basic statements inside it are. -/

section

variable {R : RunState → RunState → Prop}

theorem stepwise_executeBlock_of {block : List Statement}
    (h : ∀ statement ∈ block, Stepwise R (execute setup statement)) :
    Stepwise R (executeBlock setup block) := by
  induction block with
  | nil =>
      rw [executeBlock]
      exact stepwise_pure ()
  | cons first rest ih =>
      obtain ⟨hfirst, hrest⟩ := List.forall_mem_cons.1 h
      rw [executeBlock]
      exact stepwise_bind hfirst fun _ => ih hrest

theorem stepwise_executeFirst_of {test : Expression → Run Bool}
    (htest : ∀ expression, Stepwise R (test expression))
    {cases : List (Expression × List Statement)}
    (h : ∀ statement ∈ cases.flatMap Prod.snd, Stepwise R (execute setup statement)) :
    Stepwise R (executeFirst setup test cases) := by
  induction cases with
  | nil =>
      rw [executeFirst]
      exact stepwise_pure false
  | cons first rest ih =>
      obtain ⟨guard, body⟩ := first
      obtain ⟨hbody, hrest⟩ := List.forall_mem_append.1 h
      rw [executeFirst]
      refine stepwise_bind (htest guard) fun passes => stepwise_ite ?_ (ih hrest)
      exact stepwise_bind (stepwise_executeBlock_of hbody) fun _ => stepwise_pure true

theorem stepwise_executeOptional_of {body : Option (List Statement)}
    (h : ∀ statement ∈ body.getD [], Stepwise R (execute setup statement)) :
    Stepwise R (executeOptional setup body) := by
  cases body with
  | none =>
      rw [executeOptional]
      exact stepwise_pure ()
  | some block =>
      rw [executeOptional]
      exact stepwise_executeBlock_of h

/-- The steps of a statement are those of evaluations and of the basic statements inside it. -/
theorem stepwise_everywhere {P : Statement → Prop} (hvalue : ∀ e, Stepwise R (value e))
    (hbasic : ∀ statement, P statement → statement.IsBasic →
      Stepwise R (execute setup statement)) {statement : Statement} (h : statement.Everywhere P) :
    Stepwise R (execute setup statement) := by
  induction h with
  | @intro statement here _ ih =>
      cases statement with
      | branch guard body elseIfs elseBody =>
          obtain ⟨hbodies, helse⟩ := List.forall_mem_append.1 ih
          obtain ⟨hbody, helseIfs⟩ := List.forall_mem_append.1 hbodies
          rw [execute]
          refine stepwise_bind (stepwise_condition (hvalue guard)) fun holds => ?_
          refine stepwise_ite (stepwise_executeBlock_of hbody) ?_
          refine stepwise_bind (stepwise_executeFirst_of
            (fun e => stepwise_condition (hvalue e)) helseIfs) fun found => ?_
          exact stepwise_ite (stepwise_pure ()) (stepwise_executeOptional_of helse)
      | loop init guard update body =>
          obtain ⟨hblocks, hbody⟩ := List.forall_mem_append.1 ih
          obtain ⟨hinit, hupdate⟩ := List.forall_mem_append.1 hblocks
          rw [execute]
          refine stepwise_bind (stepwise_executeBlock_of hinit) fun _ => ?_
          refine stepwise_repeatWhile (stepwise_condition (hvalue guard)) ?_
          exact stepwise_bind (stepwise_executeBlock_of hbody) fun _ =>
            stepwise_executeBlock_of hupdate
      | switch subject cases default =>
          obtain ⟨hcases, hdefault⟩ := List.forall_mem_append.1 ih
          rw [execute]
          refine stepwise_bind (hvalue subject) fun v => ?_
          refine stepwise_bind (stepwise_executeFirst_of
            (fun e => stepwise_matchesCase v (hvalue e)) hcases) fun found => ?_
          exact stepwise_ite (stepwise_pure ()) (stepwise_executeOptional_of hdefault)
      | strictTiming body =>
          rw [execute]
          exact stepwise_executeBlock_of ih
      | _ => exact hbasic _ here trivial

end

theorem stepwise_execute_basic {statement : Statement} (hbasic : statement.IsBasic) :
    Stepwise (Step setup) (execute setup statement) := by
  cases statement with
  | play pulse element amplitude length =>
      rw [execute]
      refine stepwise_play (fun e _ => stepwise_value e) fun samples => ?_
      exact stepwise_playSamples element pulse.name samples
  | measure element operation =>
      rw [execute]
      exact stepwise_measure element operation
  | align elements =>
      rw [execute]
      exact stepwise_onTimelines
        (Store.stepwise_of_accesses (Store.stepwise_align (fun _ => trivial) elements))
  | assign target expression =>
      rw [execute]
      exact stepwise_assign target expression
  | resetPhase elements =>
      rw [execute]
      exact stepwise_callAll elements .resetPhase trivial
  | rampToZero element length =>
      rw [execute]
      refine stepwise_bind (stepwise_rampToZeroDuration element
        fun e _ => stepwise_value e) fun samples => ?_
      exact stepwise_call element (.rampToZero samples) trivial
  | wait length elements =>
      rw [execute]
      exact stepwise_wait length elements
  | frameRotation angle elements =>
      rw [execute]
      exact stepwise_rotateFrame angle elements
  | save expression stream =>
      rw [execute]
      exact stepwise_bind (stepwise_value expression) fun v => stepwise_save stream v
  | branch | loop | switch | strictTiming => exact hbasic.elim

/-- **Runs are steps.** A statement takes its state through steps only, also where it fails. -/
theorem stepwise_execute (setup : Setup) (statement : Statement) :
    Stepwise (Step setup) (execute setup statement) :=
  stepwise_everywhere (P := fun _ => True) stepwise_value (fun _ _ => stepwise_execute_basic)
    (Statement.everywhere_of_forall (fun _ => trivial) statement)

theorem stepwise_executeBlock (setup : Setup) (block : List Statement) :
    Stepwise (Step setup) (executeBlock setup block) :=
  stepwise_executeBlock_of fun statement _ => stepwise_execute setup statement

/-! ## Reached states -/

/-- The states that statements lead to from a first one, run one after the other under any of the
    given setups, whether they succeed or fail. What random numbers come next is left open. -/
inductive Reached (setups : Set Setup) (first : RunState) : RunState → Prop where
  | start : Reached setups first first
  | executed {state : RunState} {setup : Setup} (hsetup : setup ∈ setups) (statement : Statement)
    (h : Reached setups first state) :
    Reached setups first (stateAfter (execute setup statement) state)
  | drawn {state : RunState} (random : Random.Pool) (h : Reached setups first state) :
    Reached setups first { state with random }

/-- What the steps of all setups keep holds of every state that is reached. -/
theorem Reached.invariant {setups : Set Setup} {P : RunState → Prop}
    (hstep : ∀ setup ∈ setups, ∀ state next, Step setup state next → P state → P next)
    (hrandom : ∀ state random, P state → P { state with random })
    {first state : RunState} (hfirst : P first) (h : Reached setups first state) : P state := by
  induction h with
  | start => exact hfirst
  | @executed state setup hsetup statement _ ih =>
      exact (stepwise_execute setup statement).invariant (hstep setup hsetup) ih
  | drawn random _ ih => exact hrandom _ random ih

/-- What steps on timelines keep holds of the timelines of every state that is reached. -/
theorem Reached.timelines {setups : Set Setup} {P : Store → Prop}
    (hstep : ∀ setup ∈ setups, ∀ store next, Store.Step setup store next → P store → P next)
    {first state : RunState} (hfirst : P first.timelines) (h : Reached setups first state) :
    P state.timelines := by
  refine h.invariant (P := fun state => P state.timelines) ?_ (fun _ _ hstate => hstate) hfirst
  intro setup hsetup state next hnext hstate
  cases hnext with
  | played hplayed => exact hstep setup hsetup _ _ hplayed hstate
  | _ => exact hstate

/-- What assignments keep holds of the variables of every state that is reached. -/
theorem Reached.environment {setups : Set Setup} {P : Environment → Prop}
    (hstep : ∀ environment next, Environment.Step environment next → P environment → P next)
    {first state : RunState} (hfirst : P first.environment) (h : Reached setups first state) :
    P state.environment := by
  refine h.invariant (P := fun state => P state.environment) ?_ (fun _ _ hstate => hstate) hfirst
  intro setup _ state next hnext hstate
  cases hnext with
  | assigned hassigned => exact hstep _ _ hassigned hstate
  | _ => exact hstate

theorem Reached.executedBlock {setups : Set Setup} {first state : RunState} {setup : Setup}
    (hsetup : setup ∈ setups) (block : List Statement) (h : Reached setups first state) :
    Reached setups first (stateAfter (executeBlock setup block) state) := by
  have hblock : Stepwise (fun earlier later => Reached setups first earlier →
      Reached setups first later) (executeBlock setup block) :=
    stepwise_executeBlock_of fun statement _ _ => .single (.executed hsetup statement)
  exact hblock.invariant (fun _ _ hstep => hstep) h

end Run

/-! ## Programs -/

/-- A program succeeds if its definitions can be set up and its body succeeds from there. -/
theorem Program.run_eq_ok_iff {program : Program} {setup : Setup} {outcome : Outcome} :
    program.run setup = .ok outcome ↔ ∃ state last, program.initialState = .ok state
      ∧ (Run.executeBlock setup program.body).run state = .ok () last
      ∧ outcome = ⟨last.timelines, last.environment, last.streams⟩ := by
  rw [run, except_bind_eq_ok]
  refine exists_congr fun state => ?_
  simp only [EStateM.run]
  cases Run.executeBlock setup program.body state with
  | ok u last => simp [eq_comm]
  | error e last => simp

/-- A program that succeeds ends in a state that its body leads to. -/
theorem Program.reached_of_run {program : Program} {setup : Setup} {outcome : Outcome}
    (h : program.run setup = .ok outcome) :
    ∃ first last, program.initialState = .ok first ∧ Run.Reached {setup} first last
      ∧ outcome = ⟨last.timelines, last.environment, last.streams⟩ := by
  obtain ⟨first, last, hinitial, hrun, rfl⟩ := run_eq_ok_iff.1 h
  have hstart : Run.Reached {setup} first first := .start
  have hreached := hstart.executedBlock (Set.mem_singleton setup) program.body
  rw [stateAfter_of_ok hrun] at hreached
  exact ⟨first, last, hinitial, hreached, rfl⟩

/-- A body begins with the variables of the definitions and with nothing else. -/
theorem Program.initialState_eq_ok {program : Program} {state : RunState}
    (h : program.initialState = .ok state) :
    ∃ environment, state = ⟨environment, .empty, .empty, .empty⟩ := by
  obtain ⟨environment, -, hstate⟩ := except_bind_eq_ok.1 h
  cases hstate
  exact ⟨environment, rfl⟩

end PulseTimeline
