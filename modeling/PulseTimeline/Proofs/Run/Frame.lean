import PulseTimeline.Proofs.Run.Effects
import PulseTimeline.Proofs.Run.Expansion

set_option autoImplicit false

/-! # The frame of a block

A block leaves alone what its text does not mention: variables that it does not assign to, streams
that it does not save to, and elements that it neither names nor measures near. Only an alignment or
a wait for all elements lets it reach an element that its text does not tell. -/

namespace PulseTimeline

namespace Run

/-- What a block has left as it was, going by its text and the setup. -/
structure Framed (setup : Setup) (block : List Statement) (state next : RunState) : Prop where
  values : ∀ name,
    (∀ statement ∈ block, statement.Everywhere fun inner => ¬ inner.Assigns name) →
      next.environment.find? name = state.environment.find? name
  names : next.environment.bindings.keys = state.environment.bindings.keys
  streams : ∀ stream,
    (∀ statement ∈ block, statement.Everywhere fun inner => ¬ inner.Saves stream) →
      next.streams.find? stream = state.streams.find? stream
  timelines : (∀ statement ∈ block, statement.Everywhere fun inner => ¬ inner.IsUniversal) →
    ∀ channel, (∀ statement ∈ block, statement.Everywhere fun inner =>
      channel ∉ inner.elements ∧ ¬ inner.MeasuresNear setup channel) →
        next.timelines.find? channel = state.timelines.find? channel

variable {setup : Setup} {statement : Statement} {state next : RunState}

/-! ## What single effects keep -/

theorem Effect.variable_eq (h : Effect setup statement state next) {name : String}
    (hname : ¬ statement.Assigns name) :
    next.environment.find? name = state.environment.find? name := by
  cases h with
  | assigned other hother hrebinds =>
      refine hrebinds.find?_eq ?_
      rintro rfl
      exact hname hother
  | drawn | played | saved => rfl

theorem Effect.names_eq (h : Effect setup statement state next) :
    next.environment.bindings.keys = state.environment.bindings.keys := by
  cases h with
  | assigned other _ hrebinds => exact hrebinds.keys_eq
  | drawn | played | saved => rfl

theorem Effect.stream_eq (h : Effect setup statement state next) {stream : String}
    (hstream : ¬ statement.Saves stream) :
    next.streams.find? stream = state.streams.find? stream := by
  cases h with
  | saved other hother values =>
      refine state.streams.find?_insert_of_ne values ?_
      rintro rfl
      exact hstream hother
  | drawn | assigned | played => rfl

theorem Effect.timeline_eq (h : Effect setup statement state next) {channel : String}
    (hchannel : ¬ statement.Reaches setup channel) :
    next.timelines.find? channel = state.timelines.find? channel := by
  cases h with
  | played hfiles => exact hfiles.find?_eq hchannel
  | drawn | assigned | saved => rfl

/-! ## What blocks keep -/

/-- Blocks keep their frame, whether they succeed or fail. -/
theorem framed_stateAfter (setup : Setup) (block : List Statement) (state : RunState) :
    Framed setup block state (stateAfter (executeBlock setup block) state) where
  values := by
    intro name hunassigned
    exact kept_by_executeBlock (f := fun state => state.environment.find? name)
      (fun _ _ => rfl) (fun _ hname _ _ heffect => heffect.variable_eq hname) hunassigned state
  names := by
    exact kept_by_executeBlock (f := fun state => state.environment.bindings.keys)
      (P := fun _ => True) (fun _ _ => rfl) (fun _ _ _ _ heffect => heffect.names_eq)
      (fun statement _ => Statement.everywhere_of_forall (fun _ => trivial) statement) state
  streams := by
    intro stream hunsaved
    exact kept_by_executeBlock (f := fun state => state.streams.find? stream)
      (fun _ _ => rfl) (fun _ hstream _ _ heffect => heffect.stream_eq hstream) hunsaved state
  timelines := by
    intro hnamed channel hother
    refine kept_by_executeBlock (f := fun state => state.timelines.find? channel)
      (fun _ _ => rfl) (fun statement hout _ _ heffect => heffect.timeline_eq ?_)
      (fun statement hmem => (hnamed statement hmem).and (hother statement hmem)) state
    exact (statement.not_reaches_iff setup channel).2 hout

/-- **Frame.** A statement or block that succeeds has kept the variables that nothing inside it
    assigns to, the names of all variables and the streams that nothing inside it saves to. If
    nothing inside it is about all elements, it has also kept the timelines, present or absent, of
    all elements that nothing inside it names or measures near. -/
theorem blocks_keep_their_frame (setup : Setup) (state next : RunState) :
    (∀ statement, (execute setup statement).run state = .ok () next →
      Framed setup [statement] state next)
    ∧ ∀ block, (executeBlock setup block).run state = .ok () next →
      Framed setup block state next := by
  have hblocks : ∀ block, (executeBlock setup block).run state = .ok () next →
      Framed setup block state next := by
    intro block hrun
    have hframed := framed_stateAfter setup block state
    rwa [stateAfter_of_ok hrun] at hframed
  refine ⟨fun statement hrun => hblocks [statement] ?_, hblocks⟩
  rw [executeBlock_singleton]
  exact hrun

/-- While one element is measured and its neighbour restarted, an element on another qubit, a
    variable and a stream stay as they are. -/
theorem frame_of_measured_neighbour :
    let setup : Setup :=
      ⟨⟨.ofList [("qe1", ⟨none, none, .empty, none⟩), ("rr1", ⟨none, none, .empty, none⟩)], .empty,
        .empty⟩, .ofList [("qe1", [0]), ("qe2", [1]), ("rr1", [0])], .standard⟩
    let body : List Statement := [.measure "rr1" none,
      .assign (.reference "i") (.literal "2" (some .int)), .save (.reference "i") "counts"]
    let environment : Environment :=
      ⟨.ofList [("i", .scalar (.int 1)), ("j", .scalar (.bool true))]⟩
    let elsewhere := { Timeline.new "qe2" .single with cursor := 4 }
    let state : RunState :=
      ⟨environment, ⟨.ofList [("qe2", elsewhere)]⟩, .empty, .ofList [("flags", [.bool true])]⟩
    ∃ next, (execute setup (.strictTiming body)).run state = .ok () next
      ∧ next.timelines.channels = ["qe2", "rr1", "qe1"]
      ∧ next.environment.find? "j" = state.environment.find? "j"
      ∧ next.streams.find? "flags" = state.streams.find? "flags"
      ∧ next.timelines.find? "qe2" = state.timelines.find? "qe2" := by
  intro setup body environment elsewhere state
  have hchannels : (stateIfOk? (execute setup (.strictTiming body)) state).map
      (fun next => next.timelines.channels) = some ["qe2", "rr1", "qe1"] := by decide +kernel
  obtain ⟨next, hnext, hchannels⟩ := Option.map_eq_some_iff.1 hchannels
  obtain ⟨u, hrun⟩ := stateIfOk?_eq_some_iff.1 hnext
  have hframed := (blocks_keep_their_frame setup state next).1 (.strictTiming body) hrun
  have heverywhere : ∀ P : Statement → Prop, P (.strictTiming body) →
      (∀ inner ∈ body, P inner) →
        ∀ statement ∈ [Statement.strictTiming body], statement.Everywhere P := by
    intro P hhere hinside
    have hbasic : ∀ inner ∈ body, inner.IsBasic := by simp [body, Statement.IsBasic]
    refine List.forall_mem_singleton.2 ⟨hhere, fun inner hinner => ?_⟩
    exact Statement.everywhere_of_isBasic (hbasic inner hinner) (hinside inner hinner)
  refine ⟨next, hrun, hchannels, ?_, ?_, ?_⟩
  · refine hframed.values "j" (heverywhere _ id ?_)
    simp [body, Statement.Assigns, Target.name]
  · refine hframed.streams "flags" (heverywhere _ id ?_)
    simp [body, Statement.Saves]
  · refine hframed.timelines (heverywhere _ id ?_) "qe2" (heverywhere _ ⟨List.not_mem_nil, id⟩ ?_)
    · simp [body, Statement.IsUniversal]
    · have hfar : "qe2" ∉ setup.qubits.sharing "rr1" := by decide
      simp [body, Statement.elements, Statement.MeasuresNear, hfar]

end Run

end PulseTimeline
