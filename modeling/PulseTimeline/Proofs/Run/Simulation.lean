import PulseTimeline.Proofs.Run.Steps
import PulseTimeline.Proofs.Simulation
import PulseTimeline.Proofs.Statement.Thinning

set_option autoImplicit false

/-! # Simulation of runs

If evaluations lead from related states to related states with the same values, so does all that
evaluates expressions and goes on with their values alone. A block is then simulated by what a
thinning leaves of it, provided that this is so of every basic statement: one that stays is
simulated by what is left of it, and one that is left out only moves within a class of related
states. -/

namespace PulseTimeline

namespace Run

variable {setup : Setup} {R : RunState → RunState → Prop}

/-! ## The parts of the state

A computation on one part of the state is simulated if related states give it the same part, or
related ones, and stay related when it has changed them. -/

section

variable {α : Type}

theorem simulated_value_of {expression : Expression}
    (hreads : ∀ s s', R s s' → s.environment = s'.environment ∧ s.random = s'.random)
    (hwrites : ∀ s s' random, R s s' → R { s with random } { s' with random }) :
    Simulated R (value expression) (value expression) := by
  intro s s' t v hrelated hrun
  obtain ⟨random, hevaluate, rfl⟩ := run_value_eq_ok_iff.1 hrun
  -- With the same variables and the same generators, both runs draw the same numbers.
  obtain ⟨henvironment, hrandom⟩ := hreads s s' hrelated
  rw [henvironment, hrandom] at hevaluate
  exact ⟨_, run_value_eq_ok_iff.2 ⟨random, hevaluate, rfl⟩, hwrites s s' random hrelated⟩

theorem simulated_onEnvironment_of {step : EStateM RunError Environment α}
    (hreads : ∀ s s', R s s' → s.environment = s'.environment)
    (hwrites : ∀ s s' environment, R s s' → R { s with environment } { s' with environment }) :
    Simulated R (onEnvironment step) (onEnvironment step) := by
  intro s s' t a hrelated hrun
  obtain ⟨environment, hstep, rfl⟩ := run_onEnvironment_eq_ok_iff.1 hrun
  rw [hreads s s' hrelated] at hstep
  exact ⟨_, run_onEnvironment_eq_ok_iff.2 ⟨environment, hstep, rfl⟩,
    hwrites s s' environment hrelated⟩

theorem simulated_onTimelines_of {Q : Store → Store → Prop} {x y : EStateM TimelineError Store α}
    (h : Simulated Q x y) (hreads : ∀ s s', R s s' → Q s.timelines s'.timelines)
    (hwrites : ∀ s s' store store', R s s' → Q store store' →
      R { s with timelines := store } { s' with timelines := store' }) :
    Simulated R (onTimelines x) (onTimelines y) := by
  intro s s' t a hrelated hrun
  obtain ⟨store, hstep, rfl⟩ := run_onTimelines_eq_ok_iff.1 hrun
  obtain ⟨store', hstep', hstores⟩ := h (hreads s s' hrelated) hstep
  exact ⟨_, run_onTimelines_eq_ok_iff.2 ⟨store', hstep', rfl⟩,
    hwrites s s' store store' hrelated hstores⟩

end

/-! ## The expressions of statements -/

section

variable {expression : Expression}

theorem simulated_integer (h : Simulated R (value expression) (value expression)) :
    Simulated R (integer expression) (integer expression) :=
  simulated_bind h fun _ => simulated_liftOutcome _

theorem simulated_condition (h : Simulated R (value expression) (value expression)) :
    Simulated R (condition expression) (condition expression) :=
  simulated_bind h fun _ => simulated_pure _

theorem simulated_duration (h : Simulated R (value expression) (value expression)) :
    Simulated R (duration setup expression) (duration setup expression) :=
  simulated_bind (simulated_integer h) fun _ => simulated_liftOutcome _

theorem simulated_matchesCase (subject : Value)
    (h : Simulated R (value expression) (value expression)) :
    Simulated R (matchesCase subject expression) (matchesCase subject expression) :=
  simulated_bind h fun _ => simulated_bind (simulated_liftOutcome _) fun _ => simulated_pure _

end

section

variable (hvalue : ∀ expression, Simulated R (value expression) (value expression))

include hvalue

theorem simulated_playDuration (length : Option Expression) :
    Simulated R (playDuration setup length) (playDuration setup length) := by
  cases length with
  | none => exact simulated_pure none
  | some expression =>
      refine simulated_bind (simulated_duration (hvalue expression)) fun samples => ?_
      exact simulated_bind (simulated_liftOutcome _) fun _ => simulated_pure _

theorem simulated_playAmplitude (amplitude : Option Expression) :
    Simulated R (playAmplitude amplitude) (playAmplitude amplitude) := by
  cases amplitude with
  | none => exact simulated_pure none
  | some expression => exact simulated_bind (hvalue expression) fun _ => simulated_pure _

theorem simulated_pulseSamples (element : String) (duration : Option Nat)
    (amplitude : Option Float) (pulse : Pulse) :
    Simulated R (pulseSamples setup element duration amplitude pulse)
      (pulseSamples setup element duration amplitude pulse) := by
  cases pulse with
  | named operation => exact simulated_liftOutcome _
  | ramp slope => exact simulated_bind (hvalue slope) fun _ => simulated_liftOutcome _

theorem simulated_play {pulse : Pulse} {element : String} (amplitude length : Option Expression)
    (hplayed : ∀ samples, Simulated R (playSamples setup element pulse.name samples)
      (playSamples setup element pulse.name samples)) :
    Simulated R (play setup pulse element amplitude length)
      (play setup pulse element amplitude length) := by
  refine simulated_bind (simulated_playDuration hvalue length) fun duration => ?_
  refine simulated_bind (simulated_playAmplitude hvalue amplitude) fun factor => ?_
  exact simulated_bind (simulated_pulseSamples hvalue element duration factor pulse) hplayed

theorem simulated_assign (target : Target) (expression : Expression)
    (henvironment : ∀ step : EStateM RunError Environment Unit,
      Simulated R (onEnvironment step) (onEnvironment step)) :
    Simulated R (assign target expression) (assign target expression) := by
  refine simulated_bind (hvalue expression) fun v => ?_
  cases target with
  | reference name => exact henvironment _
  | cell array index =>
      exact simulated_bind (simulated_integer (hvalue index)) fun position => henvironment _

theorem simulated_rampToZeroDuration (element : String) (length : Option Expression) :
    Simulated R (rampToZeroDuration setup element length)
      (rampToZeroDuration setup element length) := by
  cases length with
  | none => exact simulated_pure _
  | some expression => exact simulated_duration (hvalue expression)

end

theorem simulated_repeatWhile {limit remaining : Nat} {condition : Run Bool} {body other : Run Unit}
    (hcondition : Simulated R condition condition) (hbody : Simulated R body other) :
    Simulated R (repeatWhile limit condition body remaining)
      (repeatWhile limit condition other remaining) := by
  induction remaining with
  | zero =>
      refine simulated_bind hcondition fun holds => ?_
      exact simulated_ite (simulated_throw _ _) (simulated_pure ())
  | succ remaining ih =>
      refine simulated_bind hcondition fun holds => ?_
      exact simulated_ite (simulated_bind hbody fun _ => ih) (simulated_pure ())

/-! ## What a thinning leaves -/

/-- What is left of a statement simulates it, and a statement of which nothing is left keeps the
    state within its class. -/
structure ThinsWell (R : RunState → RunState → Prop) (setup : Setup)
    (f : Statement → Option Statement) (statement : Statement) : Prop where
  kept : ∀ left, f statement = some left →
    Simulated R (execute setup statement) (execute setup left)
  out : f statement = none → Stepwise R (execute setup statement)

variable {f : Statement → Option Statement}

theorem ThinsWell.of_kept {statement left : Statement} (hleft : f statement = some left)
    (h : Simulated R (execute setup statement) (execute setup left)) :
    ThinsWell R setup f statement where
  kept := by
    intro other hother
    obtain rfl := Option.some.inj (hleft.symm.trans hother)
    exact h
  out := by
    intro hout
    rw [hleft] at hout
    cases hout

section

variable (hR : Equivalence R)

include hR

theorem simulated_executeBlock_thinned {block : List Statement}
    (h : ∀ statement ∈ block, ThinsWell R setup f statement) :
    Simulated R (executeBlock setup block) (executeBlock setup (block.filterMap f)) := by
  induction block with
  | nil =>
      rw [List.filterMap_nil, executeBlock]
      exact simulated_pure ()
  | cons first rest ih =>
      obtain ⟨hfirst, hrest⟩ := List.forall_mem_cons.1 h
      cases hleft : f first with
      | some left =>
          rw [List.filterMap_cons_some hleft, executeBlock, executeBlock]
          exact simulated_bind (hfirst.kept left hleft) fun _ => ih hrest
      | none =>
          -- The other run stands still meanwhile, in a state that is related all along.
          rw [List.filterMap_cons_none hleft, executeBlock]
          exact simulated_skip hR (hfirst.out hleft) fun _ => ih hrest

theorem simulated_executeFirst_thinned {test : Expression → Run Bool}
    (htest : ∀ expression, Simulated R (test expression) (test expression))
    {cases : List (Expression × List Statement)}
    (h : ∀ statement ∈ cases.flatMap Prod.snd, ThinsWell R setup f statement) :
    Simulated R (executeFirst setup test cases)
      (executeFirst setup test (Statement.thinnedBranches f cases)) := by
  induction cases with
  | nil =>
      rw [Statement.thinnedBranches, List.map_nil, executeFirst]
      exact simulated_pure false
  | cons first rest ih =>
      obtain ⟨guard, body⟩ := first
      obtain ⟨hbody, hrest⟩ := List.forall_mem_append.1 h
      rw [Statement.thinnedBranches, List.map_cons, executeFirst, executeFirst]
      refine simulated_bind (htest guard) fun passes => simulated_ite ?_ (ih hrest)
      exact simulated_bind (simulated_executeBlock_thinned hR hbody) fun _ => simulated_pure true

theorem simulated_executeOptional_thinned {body : Option (List Statement)}
    (h : ∀ statement ∈ body.getD [], ThinsWell R setup f statement) :
    Simulated R (executeOptional setup body)
      (executeOptional setup (body.map (List.filterMap f))) := by
  cases body with
  | none =>
      rw [Option.map_none, executeOptional]
      exact simulated_pure ()
  | some block =>
      rw [Option.map_some, executeOptional, executeOptional]
      exact simulated_executeBlock_thinned hR h

/-- A thinning is sound if it is so for the basic statements. -/
theorem thinsWell_everywhere {P : Statement → Prop} (hf : Statement.IsThinning f)
    (hvalue : ∀ expression, Simulated R (value expression) (value expression))
    (hbasic : ∀ statement, P statement → statement.IsBasic → ThinsWell R setup f statement)
    {statement : Statement} (h : statement.Everywhere P) : ThinsWell R setup f statement := by
  have hcondition := fun expression => simulated_condition (hvalue expression)
  induction h with
  | @intro statement here _ ih =>
      cases statement with
      | branch guard body elseIfs elseBody =>
          obtain ⟨hbodies, helse⟩ := List.forall_mem_append.1 ih
          obtain ⟨hbody, helseIfs⟩ := List.forall_mem_append.1 hbodies
          refine .of_kept (hf.branch guard body elseIfs elseBody) ?_
          rw [execute, execute]
          refine simulated_bind (hcondition guard) fun holds => ?_
          refine simulated_ite (simulated_executeBlock_thinned hR hbody) ?_
          refine simulated_bind (simulated_executeFirst_thinned hR hcondition helseIfs) ?_
          intro found
          exact simulated_ite (simulated_pure ()) (simulated_executeOptional_thinned hR helse)
      | loop init guard update body =>
          obtain ⟨hblocks, hbody⟩ := List.forall_mem_append.1 ih
          obtain ⟨hinit, hupdate⟩ := List.forall_mem_append.1 hblocks
          refine .of_kept (hf.loop init guard update body) ?_
          rw [execute, execute]
          refine simulated_bind (simulated_executeBlock_thinned hR hinit) fun _ => ?_
          refine simulated_repeatWhile (hcondition guard) ?_
          exact simulated_bind (simulated_executeBlock_thinned hR hbody) fun _ =>
            simulated_executeBlock_thinned hR hupdate
      | switch subject cases default =>
          obtain ⟨hcases, hdefault⟩ := List.forall_mem_append.1 ih
          refine .of_kept (hf.switch subject cases default) ?_
          rw [execute, execute]
          refine simulated_bind (hvalue subject) fun v => ?_
          refine simulated_bind (simulated_executeFirst_thinned hR
            (fun expression => simulated_matchesCase v (hvalue expression)) hcases) ?_
          intro found
          exact simulated_ite (simulated_pure ()) (simulated_executeOptional_thinned hR hdefault)
      | strictTiming body =>
          refine .of_kept (hf.strictTiming body) ?_
          rw [execute, execute]
          exact simulated_executeBlock_thinned hR ih
      | _ => exact hbasic _ here trivial

end

end Run

end PulseTimeline
