import PulseTimeline.Compile
import PulseTimeline.Proofs.Expression.Errors
import PulseTimeline.Proofs.RawTree.Literals

set_option autoImplicit false

/-! # What a run can end in

Some errors are ruled out before a program runs: its literals have been read and its arrays have
been measured when its tree was accepted. Every part of a run raises only errors that are then still
possible. -/

namespace PulseTimeline

/-! ## Statements -/

namespace Run

variable {setup : Setup} {α : Type}

theorem raisesOnly_onTimelines {step : EStateM TimelineError Store α}
    (h : RaisesOnly TimelineError.IsPossible step) :
    RaisesOnly RunError.IsPossible (onTimelines step) := by
  intro state next e hrun
  simp only [EStateM.run, onTimelines] at hrun
  split at hrun
  · cases hrun
  · next hstep =>
      cases hrun
      exact RunError.isPossible_ofTimeline (h _ _ _ hstep)

theorem raisesOnly_onEnvironment {step : EStateM RunError Environment α}
    (h : RaisesOnly RunError.IsPossible step) :
    RaisesOnly RunError.IsPossible (onEnvironment step) := by
  intro state next e hrun
  simp only [EStateM.run, onEnvironment] at hrun
  split at hrun
  · cases hrun
  · next hstep =>
      cases hrun
      exact h _ _ _ hstep

theorem raisesOnly_call (channel : String) {call : Timeline.Call} (hbalanced : call.IsBalanced) :
    RaisesOnly RunError.IsPossible (onTimelines (Store.edit setup.hardware channel call.edit)) :=
  raisesOnly_onTimelines (Store.raisesOnly_edit channel (Timeline.raisesOnly_edit hbalanced))

theorem raisesOnly_callAll (names : List String) {call : Timeline.Call}
    (hbalanced : call.IsBalanced) :
    RaisesOnly RunError.IsPossible (onTimelines (Store.editAll setup.hardware call.edit names)) :=
  raisesOnly_onTimelines (Store.raisesOnly_editAll names (Timeline.raisesOnly_edit hbalanced))

section

variable {expression : Expression} (hliterals : expression.HasReadableLiterals)

include hliterals

theorem raisesOnly_value : RaisesOnly RunError.IsPossible (value expression) := by
  intro state next e hrun
  simp only [EStateM.run, value] at hrun
  split at hrun
  · cases hrun
  · next hevaluate =>
      cases hrun
      exact raisesOnly_evaluate state.environment expression hliterals _ _ _ hevaluate

theorem raisesOnly_integer : RaisesOnly RunError.IsPossible (integer expression) :=
  raisesOnly_bind (raisesOnly_value hliterals) fun _ =>
    raisesOnly_liftOutcome fun _ => isPossible_of_expectInteger

theorem raisesOnly_condition : RaisesOnly RunError.IsPossible (condition expression) :=
  raisesOnly_bind (raisesOnly_value hliterals) fun _ => raisesOnly_pure _

theorem raisesOnly_duration : RaisesOnly RunError.IsPossible (duration setup expression) := by
  refine raisesOnly_bind (raisesOnly_integer hliterals) fun cycles => ?_
  refine raisesOnly_liftOutcome fun e herror => ?_
  simp only [samplesOfCycles] at herror
  split at herror
  · cases herror
    trivial
  · split at herror
    · cases herror
    · cases herror
      trivial

theorem raisesOnly_matchesCase (subject : Value) :
    RaisesOnly RunError.IsPossible (matchesCase subject expression) := by
  refine raisesOnly_bind (raisesOnly_value hliterals) fun v => ?_
  exact raisesOnly_bind (raisesOnly_mapError (fun _ => trivial) _) fun _ => raisesOnly_pure _

end

theorem raisesOnly_checkPulseLength (samples : Nat) : RaisesOnly RunError.IsPossible
    (liftOutcome (checkPulseLength setup samples) : Run Unit) := by
  refine raisesOnly_liftOutcome fun e herror => ?_
  unfold checkPulseLength at herror
  split at herror
  · cases herror
    trivial
  · cases herror

/-- Both quadratures of a pulse come from the same samples. -/
theorem raisesOnly_playSamples (element operation : String) (samples : Samples) :
    RaisesOnly RunError.IsPossible (playSamples setup element operation samples) := by
  refine raisesOnly_bind (raisesOnly_onTimelines (Store.raisesOnly_demand element)) ?_
  intro timeline
  refine raisesOnly_ite (raisesOnly_throw trivial) ?_
  refine raisesOnly_bind (raisesOnly_checkPulseLength samples.count) fun _ => ?_
  have hbalanced : (Timeline.Call.playIq operation samples.quadratures.1
      samples.quadratures.2).IsBalanced := by
    simp [Timeline.Call.IsBalanced]
  exact raisesOnly_call element hbalanced

theorem raisesOnly_playDuration {length : Option Expression}
    (hliterals : ∀ e ∈ length, e.HasReadableLiterals) :
    RaisesOnly RunError.IsPossible (playDuration setup length) := by
  cases length with
  | none => exact raisesOnly_pure none
  | some expression =>
      refine raisesOnly_bind (raisesOnly_duration (hliterals expression rfl)) fun samples => ?_
      exact raisesOnly_bind (raisesOnly_checkPulseLength samples) fun _ => raisesOnly_pure _

theorem raisesOnly_playAmplitude {amplitude : Option Expression}
    (hliterals : ∀ e ∈ amplitude, e.HasReadableLiterals) :
    RaisesOnly RunError.IsPossible (playAmplitude amplitude) := by
  cases amplitude with
  | none => exact raisesOnly_pure none
  | some expression =>
      exact raisesOnly_bind (raisesOnly_value (hliterals expression rfl)) fun _ => raisesOnly_pure _

theorem raisesOnly_pulseSamples (element : String) (duration : Option Nat)
    (amplitude : Option Float) {pulse : Pulse}
    (hliterals : ∀ e ∈ pulse.expressions, e.HasReadableLiterals) :
    RaisesOnly RunError.IsPossible (pulseSamples setup element duration amplitude pulse) := by
  cases pulse with
  | named operation => exact raisesOnly_mapError (fun _ => trivial) _
  | ramp slope =>
      refine raisesOnly_bind (raisesOnly_value (hliterals slope (List.mem_singleton.2 rfl))) ?_
      exact fun v => raisesOnly_mapError (fun _ => trivial) _

theorem raisesOnly_play {pulse : Pulse} (element : String) {amplitude length : Option Expression}
    (hliterals : (Statement.play pulse element amplitude length).HasReadableLiterals) :
    RaisesOnly RunError.IsPossible (play setup pulse element amplitude length) := by
  have hhere := hliterals.here
  simp only [Statement.expressions, List.mem_append, Option.mem_toList] at hhere
  refine raisesOnly_bind (raisesOnly_playDuration fun e he => hhere e (Or.inr he)) ?_
  intro duration
  refine raisesOnly_bind (raisesOnly_playAmplitude fun e he => hhere e (Or.inl (Or.inr he))) ?_
  intro factor
  refine raisesOnly_bind (raisesOnly_pulseSamples element duration factor
    fun e he => hhere e (Or.inl (Or.inl he))) fun samples => ?_
  exact raisesOnly_playSamples element pulse.name samples

theorem raisesOnly_measure (element : String) (operation : Option String) :
    RaisesOnly RunError.IsPossible (measure setup element operation) := by
  have hmark : RaisesOnly RunError.IsPossible (do
      onTimelines (Store.edit setup.hardware element (Timeline.measure operation))
      onTimelines (Store.restartSharing setup element)) := by
    refine raisesOnly_bind (@raisesOnly_call setup element (.measure operation) trivial) fun _ => ?_
    exact raisesOnly_onTimelines (Store.raisesOnly_restartSharing setup element)
  cases operation with
  | none => exact hmark
  | some name =>
      refine raisesOnly_bind (raisesOnly_mapError (fun _ => trivial) _) fun samples => ?_
      exact raisesOnly_bind (raisesOnly_playSamples element name samples) fun _ => hmark

theorem raisesOnly_assign {target : Target} {expression : Expression}
    (hliterals : (Statement.assign target expression).HasReadableLiterals) :
    RaisesOnly RunError.IsPossible (assign target expression) := by
  have hvalue := hliterals.here expression (List.mem_append_right _ (List.mem_singleton.2 rfl))
  refine raisesOnly_bind (raisesOnly_value hvalue) fun v => ?_
  cases target with
  | reference name => exact raisesOnly_onEnvironment (Environment.raisesOnly_assign name v)
  | cell array index =>
      have hindex := hliterals.here index (List.mem_append_left _ (List.mem_singleton.2 rfl))
      refine raisesOnly_bind (raisesOnly_integer hindex) fun position => ?_
      exact raisesOnly_onEnvironment (Environment.raisesOnly_assignElement array position v)

theorem raisesOnly_rampToZeroDuration (element : String) {length : Option Expression}
    (hliterals : ∀ e ∈ length, e.HasReadableLiterals) :
    RaisesOnly RunError.IsPossible (rampToZeroDuration setup element length) := by
  cases length with
  | none => exact raisesOnly_pure _
  | some expression => exact raisesOnly_duration (hliterals expression rfl)

theorem raisesOnly_repeatWhile {limit remaining : Nat} {condition : Run Bool} {body : Run Unit}
    (hcondition : RaisesOnly RunError.IsPossible condition)
    (hbody : RaisesOnly RunError.IsPossible body) :
    RaisesOnly RunError.IsPossible (repeatWhile limit condition body remaining) := by
  induction remaining with
  | zero =>
      refine raisesOnly_bind hcondition fun holds => ?_
      exact raisesOnly_ite (raisesOnly_throw trivial) (raisesOnly_pure ())
  | succ remaining ih =>
      refine raisesOnly_bind hcondition fun holds => ?_
      exact raisesOnly_ite (raisesOnly_bind hbody fun _ => ih) (raisesOnly_pure ())

mutual

theorem raisesOnly_execute (setup : Setup) :
    (statement : Statement) → statement.HasReadableLiterals →
      RaisesOnly RunError.IsPossible (execute setup statement)
  | .play pulse element amplitude length, hliterals => by
      rw [execute]
      exact raisesOnly_play element hliterals
  | .measure element operation, _ => by
      rw [execute]
      exact raisesOnly_measure element operation
  | .align elements, _ => by
      rw [execute]
      exact raisesOnly_onTimelines (Store.raisesOnly_align elements)
  | .assign target expression, hliterals => by
      rw [execute]
      exact raisesOnly_assign hliterals
  | .branch guard body elseIfs elseBody, hliterals => by
      rw [execute]
      obtain ⟨hguard, hguards⟩ := List.forall_mem_cons.1 hliterals.here
      obtain ⟨hbodies, helse⟩ := List.forall_mem_append.1 hliterals.inside
      obtain ⟨hbody, hbodies⟩ := List.forall_mem_append.1 hbodies
      refine raisesOnly_bind (raisesOnly_condition hguard) fun holds => ?_
      refine raisesOnly_ite (raisesOnly_executeBlock setup body hbody) ?_
      refine raisesOnly_bind (raisesOnly_executeFirst setup (fun _ => raisesOnly_condition) elseIfs
        hguards hbodies) fun found => ?_
      exact raisesOnly_ite (raisesOnly_pure ()) (raisesOnly_executeOptional setup elseBody helse)
  | .resetPhase elements, _ => by
      rw [execute]
      exact @raisesOnly_callAll setup elements .resetPhase trivial
  | .rampToZero element length, hliterals => by
      rw [execute]
      have hlength : ∀ e ∈ length, e.HasReadableLiterals :=
        fun e he => hliterals.here e (Option.mem_toList.2 he)
      refine raisesOnly_bind (raisesOnly_rampToZeroDuration element hlength) fun samples => ?_
      exact @raisesOnly_call setup element (.rampToZero samples) trivial
  | .wait length elements, hliterals => by
      rw [execute]
      have hlength := hliterals.here length (List.mem_singleton.2 rfl)
      refine raisesOnly_bind (raisesOnly_duration hlength) fun samples => ?_
      refine raisesOnly_bind raisesOnly_get fun state => ?_
      exact @raisesOnly_callAll setup _ (.delay samples) trivial
  | .frameRotation angle elements, hliterals => by
      rw [execute]
      have hangle := hliterals.here angle (List.mem_singleton.2 rfl)
      refine raisesOnly_bind (raisesOnly_value hangle) fun v => ?_
      exact @raisesOnly_callAll setup elements (.phaseOffset (Cycles.toRadians ⟨v.toReal⟩)) trivial
  | .loop init guard update body, hliterals => by
      rw [execute]
      have hguard := hliterals.here guard (List.mem_singleton.2 rfl)
      obtain ⟨hblocks, hbody⟩ := List.forall_mem_append.1 hliterals.inside
      obtain ⟨hinit, hupdate⟩ := List.forall_mem_append.1 hblocks
      refine raisesOnly_bind (raisesOnly_executeBlock setup init hinit) fun _ => ?_
      refine raisesOnly_repeatWhile (raisesOnly_condition hguard) ?_
      exact raisesOnly_bind (raisesOnly_executeBlock setup body hbody) fun _ =>
        raisesOnly_executeBlock setup update hupdate
  | .switch subject cases default, hliterals => by
      rw [execute]
      obtain ⟨hsubject, hvalues⟩ := List.forall_mem_cons.1 hliterals.here
      obtain ⟨hbodies, hdefault⟩ := List.forall_mem_append.1 hliterals.inside
      refine raisesOnly_bind (raisesOnly_value hsubject) fun v => ?_
      refine raisesOnly_bind (raisesOnly_executeFirst setup
        (fun _ hvalue => raisesOnly_matchesCase hvalue v) cases hvalues hbodies) fun found => ?_
      exact raisesOnly_ite (raisesOnly_pure ())
        (raisesOnly_executeOptional setup default hdefault)
  | .strictTiming body, hliterals => by
      rw [execute]
      exact raisesOnly_executeBlock setup body hliterals.inside
  | .save expression stream, hliterals => by
      rw [execute]
      have hvalue := hliterals.here expression (List.mem_singleton.2 rfl)
      exact raisesOnly_bind (raisesOnly_value hvalue) fun v => raisesOnly_modify _

theorem raisesOnly_executeBlock (setup : Setup) :
    (block : List Statement) → (∀ statement ∈ block, statement.HasReadableLiterals) →
      RaisesOnly RunError.IsPossible (executeBlock setup block)
  | [], _ => by
      rw [executeBlock]
      exact raisesOnly_pure ()
  | first :: rest, hliterals => by
      rw [executeBlock]
      obtain ⟨hfirst, hrest⟩ := List.forall_mem_cons.1 hliterals
      exact raisesOnly_bind (raisesOnly_execute setup first hfirst) fun _ =>
        raisesOnly_executeBlock setup rest hrest

theorem raisesOnly_executeFirst (setup : Setup) {test : Expression → Run Bool}
    (htest : ∀ expression : Expression, expression.HasReadableLiterals →
      RaisesOnly RunError.IsPossible (test expression)) :
    (cases : List (Expression × List Statement)) →
      (∀ e ∈ cases.map Prod.fst, e.HasReadableLiterals) →
      (∀ statement ∈ cases.flatMap Prod.snd, statement.HasReadableLiterals) →
      RaisesOnly RunError.IsPossible (executeFirst setup test cases)
  | [], _, _ => by
      rw [executeFirst]
      exact raisesOnly_pure false
  | (guard, body) :: rest, hguards, hbodies => by
      rw [executeFirst]
      obtain ⟨hguard, hguards⟩ := List.forall_mem_cons.1 hguards
      obtain ⟨hbody, hbodies⟩ := List.forall_mem_append.1 hbodies
      refine raisesOnly_bind (htest guard hguard) fun passes => ?_
      refine raisesOnly_ite ?_ (raisesOnly_executeFirst setup htest rest hguards hbodies)
      exact raisesOnly_bind (raisesOnly_executeBlock setup body hbody) fun _ => raisesOnly_pure true

theorem raisesOnly_executeOptional (setup : Setup) :
    (body : Option (List Statement)) →
      (∀ statement ∈ body.getD [], statement.HasReadableLiterals) →
      RaisesOnly RunError.IsPossible (executeOptional setup body)
  | none, _ => by
      rw [executeOptional]
      exact raisesOnly_pure ()
  | some body, hliterals => by
      rw [executeOptional]
      exact raisesOnly_executeBlock setup body hliterals

end

end Run

/-! ## Programs -/

/-- Arrays of a size that can be declared can all be set up. -/
theorem Environment.exists_run_define {definitions : List Definition}
    (hsized : ∀ d ∈ definitions, d.IsSized) (environment : Environment) :
    ∃ next, (definitions.forM define).run environment = .ok () next := by
  induction definitions generalizing environment with
  | nil => exact ⟨environment, rfl⟩
  | cons d rest ih =>
      obtain ⟨hfirst, hrest⟩ := List.forall_mem_cons.1 hsized
      have hdefine : ∃ middle, (define d).run environment = .ok () middle := by
        cases d with
        | scalar name type value => exact ⟨_, rfl⟩
        | array name type values size =>
            have hle : ¬maxArraySize < size := Nat.not_lt.2 hfirst.2.1
            simp only [EStateM.run, define, if_neg hle]
            exact ⟨_, rfl⟩
      obtain ⟨middle, hmiddle⟩ := hdefine
      obtain ⟨next, hnext⟩ := ih hrest middle
      exact ⟨next, run_bind_eq_ok.2 ⟨(), middle, hmiddle, hnext⟩⟩

theorem Program.isPossible_of_run {program : Program} {setup : Setup} {e : RunError}
    (hliterals : program.HasReadableLiterals) (hsized : ∀ d ∈ program.definitions, d.IsSized)
    (h : program.run setup = .error e) : e.IsPossible := by
  obtain ⟨environment, henvironment⟩ := Environment.exists_run_define hsized .empty
  have hinitial : program.initialState = .ok ⟨environment, .empty, .empty, .empty⟩ := by
    rw [initialState, Environment.ofDefinitions, henvironment]
    rfl
  rw [run, hinitial] at h
  simp only [ok_bind] at h
  split at h
  · cases h
  · next hrun =>
      cases h
      exact Run.raisesOnly_executeBlock setup program.body hliterals _ _ _ hrun

/-- **Accepted programs fail in few ways.** Whatever tree is compiled for whatever setup, the run
    does not end in a literal that cannot be read or in an array that is too large, and a timeline
    is at fault only if it would last too long. -/
theorem accepted_programs_fail_in_few_ways {tree : Json} {setup : Setup} {e : RunError}
    (h : compile tree setup = .error (.run e)) :
    (∀ error, e ≠ .literal error) ∧ (∀ name size limit, e ≠ .arrayTooLarge name size limit)
      ∧ ∀ error, e = .timeline error → ∃ channel, error = .durationOverflow channel := by
  have hpossible : e.IsPossible := by
    rcases except_bind_eq_error.1 h with htree | ⟨program, hprogram, h⟩
    · obtain ⟨error, -, heq⟩ := mapError_eq_error.1 htree
      cases heq
    · have hread := mapError_eq_ok.1 hprogram
      rcases except_bind_eq_error.1 h with hrun | ⟨outcome, -, houtcome⟩
      · obtain ⟨error, herror, heq⟩ := mapError_eq_error.1 hrun
        cases heq
        exact Program.isPossible_of_run (RawTree.hasReadableLiterals_of_ofTree hread)
          (RawTree.isSized_of_ofTree hread) herror
      · cases houtcome
  refine ⟨?_, ?_, ?_⟩
  · rintro error rfl
    exact hpossible
  · rintro name size limit rfl
    exact hpossible
  · rintro error rfl
    cases error with
    | durationOverflow channel => exact ⟨channel, rfl⟩
    | _ => exact hpossible.elim

/-- The second of two ramps makes a timeline last too long if each lasts as long as possible. -/
theorem failure_of_second_ramp :
    let ramp : Json := .object [("rampToZero", .object [("qe", .object [("name", .text "qe1")])])]
    let tree : Json := .object [("body", .object [("statements", .array [ramp, ramp])])]
    let setup : Setup :=
      ⟨⟨.ofList [("qe1", ⟨none, none, .empty, some maxDuration⟩)], .empty, .empty⟩, .empty,
        .standard⟩
    compile tree setup = .error (.run (.timeline (.durationOverflow "qe1")))
      ∧ ∃ channel, TimelineError.durationOverflow "qe1" = .durationOverflow channel := by
  intro ramp tree setup
  have hcompile : compile tree setup = .error (.run (.timeline (.durationOverflow "qe1"))) := by
    decide +kernel
  exact ⟨hcompile, (accepted_programs_fail_in_few_ways hcompile).2.2 _ rfl⟩

end PulseTimeline
