import PulseTimeline.Proofs.Environment.Access
import PulseTimeline.Proofs.Run.Steps
import PulseTimeline.Proofs.Statement.Effects
import PulseTimeline.Proofs.Store.Footprint

set_option autoImplicit false

/-! # The effects of statements

Whatever a basic statement does to a state is one of four things: it draws random numbers, gives a
variable that it assigns to and that is there already another meaning, files timelines of elements
that it reaches, or writes to a stream that it saves to. So what no effect of the statements inside
a block changes, the block leaves as it is. -/

namespace PulseTimeline

/-! ## Effects on variables -/

namespace Environment

/-- A variable that is there already gets another meaning. -/
inductive Rebinds (name : String) (environment : Environment) : Environment → Prop where
  | bound (h : environment.find? name ≠ none) (meaning : Variable) :
    Rebinds name environment (environment.put name meaning)

variable {name other : String} {environment next : Environment}

theorem rebinds_put {meaning : Variable} (h : environment.find? name = some meaning)
    (later : Variable) : Rebinds name environment (environment.put name later) :=
  .bound (Option.ne_none_iff_exists'.2 ⟨meaning, h⟩) later

theorem assign_rebinds (name : String) (value : Value) :
    Stepwise (Rebinds name) (assign name value) := fun _ =>
  stateAfter_assign .refl fun _ hfound => .single (rebinds_put hfound _)

theorem assignElement_rebinds (name : String) (index : Int64) (value : Value) :
    Stepwise (Rebinds name) (assignElement name index value) := fun _ =>
  stateAfter_assignElement .refl fun _ _ _ hfound => .single (rebinds_put hfound _)

theorem Rebinds.find?_eq (h : Rebinds name environment next) (hother : other ≠ name) :
    next.find? other = environment.find? other := by
  cases h with
  | bound _ meaning => exact find?_put_of_ne environment meaning hother

theorem Rebinds.keys_eq (h : Rebinds name environment next) :
    next.bindings.keys = environment.bindings.keys := by
  cases h with
  | bound hbound meaning => exact environment.bindings.keys_insert_of_mem name meaning hbound

end Environment

namespace Run

/-! ## Effects on states -/

/-- What a statement may do to a state, going by its text and the setup. -/
inductive Effect (setup : Setup) (statement : Statement) (state : RunState) : RunState → Prop where
  | drawn (random : Random.Pool) : Effect setup statement state { state with random }
  | assigned (name : String) (hname : statement.Assigns name) {environment : Environment}
    (h : Environment.Rebinds name state.environment environment) :
    Effect setup statement state { state with environment }
  | played {timelines : Store}
    (h : Store.Files (statement.Reaches setup) state.timelines timelines) :
    Effect setup statement state { state with timelines }
  | saved (stream : String) (hstream : statement.Saves stream) (values : List Value) :
    Effect setup statement state { state with streams := state.streams.insert stream values }

variable {setup : Setup} {statement : Statement} {α : Type}

theorem value_effects (expression : Expression) :
    Stepwise (Effect setup statement) (value expression) := by
  intro state
  rw [stateAfter_value]
  exact .single (.drawn _)

theorem onEnvironment_effects {name : String} {step : EStateM RunError Environment α}
    (hname : statement.Assigns name) (h : Stepwise (Environment.Rebinds name) step) :
    Stepwise (Effect setup statement) (onEnvironment step) := by
  intro state
  rw [stateAfter_onEnvironment]
  have hlift : ∀ environment next, Environment.Rebinds name environment next →
      Effect setup statement { state with environment } { state with environment := next } := by
    intro environment next hnext
    exact @Effect.assigned _ _ { state with environment } name hname _ hnext
  exact Relation.ReflTransGen.lift (fun environment => { state with environment }) hlift _ _
    (h state.environment)

theorem onTimelines_effects {step : EStateM TimelineError Store α}
    (h : Stepwise (Store.Files (statement.Reaches setup)) step) :
    Stepwise (Effect setup statement) (onTimelines step) := by
  intro state
  rw [stateAfter_onTimelines]
  have hlift : ∀ store next, Store.Files (statement.Reaches setup) store next →
      Effect setup statement { state with timelines := store }
        { state with timelines := next } := by
    intro store next hnext
    exact @Effect.played _ _ { state with timelines := store } _ hnext
  exact Relation.ReflTransGen.lift (fun store => { state with timelines := store }) hlift _ _
    (h state.timelines)

theorem playSamples_effects {element : String} (h : statement.Reaches setup element)
    (operation : String) (samples : Samples) :
    Stepwise (Effect setup statement) (playSamples setup element operation samples) := by
  refine stepwise_bind (onTimelines_effects (Store.demand_files h)) fun timeline => ?_
  refine stepwise_ite (stepwise_throw _) ?_
  refine stepwise_bind (stepwise_liftOutcome _) fun _ => ?_
  exact onTimelines_effects (Store.edit_files _ h)

theorem measure_effects (element : String) (operation : Option String) :
    Stepwise (Effect setup (.measure element operation)) (measure setup element operation) := by
  have hself : (Statement.measure element operation).Reaches setup element :=
    Statement.reaches_elements _ setup element (List.mem_singleton.2 rfl)
  have hmark : Stepwise (Effect setup (.measure element operation)) (do
      onTimelines (Store.edit setup.hardware element (Timeline.measure operation))
      onTimelines (Store.restartSharing setup element)) := by
    refine stepwise_bind (onTimelines_effects (Store.edit_files _ hself)) fun _ => ?_
    refine onTimelines_effects (Store.restartSharing_files fun other hother => ?_)
    exact Or.inr (Or.inr hother)
  cases operation with
  | none => exact hmark
  | some name =>
      refine stepwise_bind (stepwise_liftOutcome _) fun samples => ?_
      exact stepwise_bind (playSamples_effects hself name samples) fun _ => hmark

theorem assign_effects (target : Target) (expression : Expression) :
    Stepwise (Effect setup (.assign target expression)) (assign target expression) := by
  refine stepwise_bind (value_effects expression) fun v => ?_
  cases target with
  | reference name => exact onEnvironment_effects rfl (Environment.assign_rebinds name v)
  | cell array index =>
      refine stepwise_bind (stepwise_integer (value_effects index)) fun position => ?_
      exact onEnvironment_effects rfl (Environment.assignElement_rebinds array position v)

theorem wait_effects (length : Expression) (elements : List String) :
    Stepwise (Effect setup (.wait length elements)) (wait setup length elements) := by
  refine stepwise_bind (stepwise_duration (value_effects length)) fun samples => ?_
  refine stepwise_bind stepwise_get fun state => ?_
  have hnamed := Statement.reaches_elements (.wait length elements) setup
  exact onTimelines_effects (Store.editAll_files _
    (Store.forall_mem_named _ hnamed fun hnil _ => Or.inl hnil))

theorem execute_effects (hbasic : statement.IsBasic) :
    Stepwise (Effect setup statement) (execute setup statement) := by
  cases statement with
  | play pulse element amplitude length =>
      have hself := Statement.reaches_elements (.play pulse element amplitude length) setup element
        (List.mem_singleton.2 rfl)
      rw [execute]
      refine stepwise_play (fun e _ => value_effects e) fun samples => ?_
      exact playSamples_effects hself pulse.name samples
  | measure element operation =>
      rw [execute]
      exact measure_effects element operation
  | align elements =>
      have hnamed := Statement.reaches_elements (.align elements) setup
      rw [execute]
      exact onTimelines_effects (Store.align_files hnamed fun hnil _ => Or.inl hnil)
  | assign target expression =>
      rw [execute]
      exact assign_effects target expression
  | resetPhase elements =>
      have hnamed := Statement.reaches_elements (.resetPhase elements) setup
      rw [execute]
      exact onTimelines_effects (Store.editAll_files _ hnamed)
  | rampToZero element length =>
      have hself := Statement.reaches_elements (.rampToZero element length) setup element
        (List.mem_singleton.2 rfl)
      rw [execute]
      refine stepwise_bind (stepwise_rampToZeroDuration element fun e _ => value_effects e) ?_
      exact fun samples => onTimelines_effects (Store.edit_files _ hself)
  | wait length elements =>
      rw [execute]
      exact wait_effects length elements
  | frameRotation angle elements =>
      have hnamed := Statement.reaches_elements (.frameRotation angle elements) setup
      rw [execute]
      refine stepwise_bind (value_effects angle) fun v => ?_
      exact onTimelines_effects (Store.editAll_files _ hnamed)
  | save expression stream =>
      rw [execute]
      refine stepwise_bind (value_effects expression) fun v => ?_
      have hsaves : (Statement.save expression stream).Saves stream := rfl
      exact fun state => .single (.saved stream hsaves _)
  | branch | loop | switch | strictTiming => exact hbasic.elim

/-! ## What effects keep -/

/-- What no effect of the statements inside a block changes, the block does not change, whether it
    succeeds or fails. -/
theorem kept_by_executeBlock {γ : Type} {f : RunState → γ} {P : Statement → Prop}
    (hdrawn : ∀ state random, f { state with random } = f state)
    (heffect : ∀ statement, P statement → ∀ state next, Effect setup statement state next →
      f next = f state)
    {block : List Statement} (h : ∀ statement ∈ block, statement.Everywhere P)
    (state : RunState) : f (stateAfter (executeBlock setup block) state) = f state := by
  have hvalue : ∀ e, Stepwise (fun earlier later => f later = f earlier) (value e) := by
    intro e earlier
    rw [stateAfter_value]
    exact .single (hdrawn earlier _)
  have hexecute : ∀ statement ∈ block,
      Stepwise (fun earlier later => f later = f earlier) (execute setup statement) := by
    intro statement hmem
    refine stepwise_everywhere hvalue (fun basic hP hbasic => ?_) (h statement hmem)
    exact (execute_effects hbasic).mono (heffect basic hP)
  exact (stepwise_executeBlock_of hexecute).invariant (P := fun later => f later = f state)
    (fun _ _ hstep hkept => hstep.trans hkept) rfl

end Run

end PulseTimeline
