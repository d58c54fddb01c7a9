import PulseTimeline.Proofs.Expression.Types
import PulseTimeline.Proofs.RawTree.Declarations
import PulseTimeline.Proofs.Run.Steps

set_option autoImplicit false

/-! # Runs keep the declared types

A declaration fixes the type of its variable. Assignments cast to it, so that every variable keeps
its type however a run goes on, and with it every expression. -/

namespace PulseTimeline

/-! ## Declarations -/

/-- The declared type. -/
def Definition.variableType : Definition → VariableType
  | .scalar _ type _ => .scalar type
  | .array _ type _ _ => .array type

/-- The types of variables after a declaration. -/
def VariableTypes.declare (types : VariableTypes) (definition : Definition) : VariableTypes :=
  fun name => if name = definition.name then some definition.variableType else types name

/-- The types that declarations give to variables, the last one of a name counting. -/
def declaredTypes (definitions : List Definition) : VariableTypes :=
  definitions.foldl VariableTypes.declare fun _ => none

/-! ## Environments -/

namespace Environment

variable {environment next : Environment} {types : VariableTypes}

theorem hasTypes_empty (types : VariableTypes) : Environment.empty.HasTypes types := by
  intro name found hfound
  cases hfound

theorem HasTypes.put {later : VariableTypes} (h : environment.HasTypes types) {name : String}
    {found : Variable} {type : VariableType} (hname : later name = some type)
    (hothers : ∀ other, other ≠ name → later other = types other) (hfound : found.HasType type) :
    (environment.put name found).HasTypes later := by
  intro other variable' hother
  by_cases heq : other = name
  · subst heq
    rw [find?_put_self] at hother
    cases hother
    exact ⟨type, hname, hfound⟩
  · rw [find?_put_of_ne environment found heq] at hother
    rw [hothers other heq]
    exact h other variable' hother

theorem type_of_mem_resized {values : List Value} {size : Nat} {type : ScalarType}
    (h : ∀ value ∈ values, value.type = type) :
    ∀ value ∈ (resized values size type.zero).toArray, value.type = type := by
  intro value hvalue
  rcases List.mem_append.1 (List.mem_toArray.1 hvalue) with hold | hfill
  · exact h value (List.mem_of_mem_take hold)
  · rw [(List.mem_replicate.1 hfill).2, Value.type_zero]

theorem HasTypes.define (h : environment.HasTypes types) {definition : Definition}
    (hmade : definition.Made) (hrun : (define definition).run environment = .ok () next) :
    next.HasTypes (types.declare definition) := by
  have hname : types.declare definition definition.name = some definition.variableType :=
    if_pos rfl
  have hothers : ∀ other, other ≠ definition.name →
      types.declare definition other = types other := fun other hother => if_neg hother
  cases hmade with
  | scalar name type value =>
      cases hrun
      refine h.put hname hothers (.scalar ?_)
      cases value with
      | none => exact Value.type_zero type
      | some v => exact Value.type_cast v type
  | array name type values size =>
      simp only [EStateM.run, Environment.define, Definition.ofArray] at hrun
      split at hrun
      · cases hrun
      · cases hrun
        refine h.put hname hothers (.array (type_of_mem_resized ?_))
        intro value hvalue
        obtain ⟨v, -, rfl⟩ := List.mem_map.1 hvalue
        exact Value.type_cast v type

theorem HasTypes.defineAll {definitions : List Definition} (h : environment.HasTypes types)
    (hmade : ∀ d ∈ definitions, d.Made)
    (hrun : (definitions.forM Environment.define).run environment = .ok () next) :
    next.HasTypes (definitions.foldl VariableTypes.declare types) := by
  induction definitions generalizing environment types with
  | nil =>
      obtain ⟨-, rfl⟩ := run_pure_eq_ok.1 hrun
      exact h
  | cons first rest ih =>
      have hbind : (Environment.define first >>= fun _ =>
          rest.forM Environment.define).run environment = .ok () next := hrun
      obtain ⟨u, middle, hfirst, hrest⟩ := run_bind_eq_ok.1 hbind
      have hmiddle := h.define (hmade first (List.mem_cons_self ..)) hfirst
      exact ih hmiddle (fun d hd => hmade d (List.mem_cons_of_mem first hd)) hrest

/-- The environment that declarations set up has the declared types. -/
theorem hasTypes_ofDefinitions {definitions : List Definition} (hmade : ∀ d ∈ definitions, d.Made)
    (h : ofDefinitions definitions = .ok environment) :
    environment.HasTypes (declaredTypes definitions) := by
  unfold ofDefinitions at h
  split at h
  · next hrun =>
      cases h
      exact (hasTypes_empty _).defineAll hmade hrun
  · cases h

theorem HasTypes.assign (h : environment.HasTypes types) (name : String) (value : Value) :
    (stateAfter (Environment.assign name value) environment).HasTypes types := by
  refine stateAfter_assign (P := fun next => next.HasTypes types) h fun current hfound => ?_
  obtain ⟨type, htype, hcurrent⟩ := h name _ hfound
  cases hcurrent with
  | scalar hcurrent =>
      refine h.put htype (fun _ _ => rfl) (.scalar ?_)
      rw [Value.type_cast, hcurrent]

theorem HasTypes.assignElement (h : environment.HasTypes types) (name : String) (index : Int64)
    (value : Value) :
    (stateAfter (Environment.assignElement name index value) environment).HasTypes types := by
  refine stateAfter_assignElement (P := fun next => next.HasTypes types) h ?_
  intro elementType values position hfound
  obtain ⟨type, htype, hvalues⟩ := h name _ hfound
  cases hvalues with
  | array hvalues =>
      refine h.put htype (fun _ _ => rfl) (.array ?_)
      intro v hv
      rcases Array.mem_or_eq_of_mem_set hv with hold | rfl
      · exact hvalues v hold
      · exact Value.type_cast value elementType

theorem HasTypes.step (h : environment.HasTypes types) (hstep : Step environment next) :
    next.HasTypes types := by
  cases hstep with
  | assigned name value => exact h.assign name value
  | assignedElement name index value => exact h.assignElement name index value

end Environment

/-! ## Runs -/

namespace Run

theorem hasTypes_of_reached {setups : Set Setup} {types : VariableTypes} {first state : RunState}
    (hfirst : first.environment.HasTypes types) (h : Reached setups first state) :
    state.environment.HasTypes types :=
  h.environment (P := fun environment => environment.HasTypes types)
    (fun _ _ hstep henvironment => henvironment.step hstep) hfirst

theorem type?_of_value {types : VariableTypes} {state next : RunState}
    (htypes : state.environment.HasTypes types) {expression : Expression} {v : Value}
    (h : (value expression).run state = .ok v next) : expression.type? types = some v.type := by
  obtain ⟨random, hevaluate, -⟩ := run_value_eq_ok_iff.1 h
  exact type?_of_evaluate htypes expression hevaluate

/-- A value is refused as an integer for its type, which is all that the refusal tells. -/
theorem expectInteger_eq_error_iff {expression : Expression} {v : Value} {error : RunError} :
    expectInteger expression v = .error error
      ↔ v.type ≠ .int ∧ error = .expectedInteger expression.text v.type := by
  cases v <;> simp [expectInteger, Value.type, eq_comm]

/-- After a successful evaluation nothing but its type is left to refuse. -/
theorem run_integer_eq_error_iff {state next : RunState} {expression : Expression} {v : Value}
    (h : (value expression).run state = .ok v next) (error : RunError) :
    (∃ last, (integer expression).run state = .error error last)
      ↔ expectInteger expression v = .error error := by
  have hrun : (integer expression).run state
      = (liftOutcome (expectInteger expression v)).run next := by
    rw [integer, EStateM.run_bind, h]
  simp only [hrun, run_liftOutcome_eq_error, exists_and_left, exists_eq', and_true]

/-- **Expressions are statically typed.** Whatever statements have run since the declarations of a
    program, under whatever setups and random numbers, and whether they succeeded or not: the values
    of an expression have one type, and either all of them are refused as integers or none. -/
theorem expressions_are_statically_typed :
    (∀ tree program, Program.ofTree tree = .ok program → ∀ d ∈ program.definitions, d.Made)
    ∧ ∀ (definitions : List Definition) (environment : Environment),
      (∀ d ∈ definitions, d.Made) → Environment.ofDefinitions definitions = .ok environment →
      ∀ (first second state other : RunState), first.environment = environment →
        second.environment = environment → Reached Set.univ first state →
        Reached Set.univ second other →
      ∀ (expression : Expression) (v w : Value) (next last : RunState),
        (value expression).run state = .ok v next → (value expression).run other = .ok w last →
        v.type = w.type
          ∧ ∀ error,
            (expectInteger expression v = .error error ↔ expectInteger expression w = .error error)
            ∧ ((∃ refused, (integer expression).run state = .error error refused)
              ↔ ∃ refused, (integer expression).run other = .error error refused) := by
  refine ⟨fun tree program => RawTree.made_of_ofTree, ?_⟩
  intro definitions environment hmade hseeded first second state other hfirst hsecond hstate hother
    expression v w next last hv hw
  -- Both states have the declared types, and inference reads nothing else.
  have hdeclared := Environment.hasTypes_ofDefinitions hmade hseeded
  have hleft := type?_of_value (hasTypes_of_reached (hfirst ▸ hdeclared) hstate) hv
  have hright := type?_of_value (hasTypes_of_reached (hsecond ▸ hdeclared) hother) hw
  have htypes : v.type = w.type := Option.some.inj (hleft.symm.trans hright)
  have hrefused : ∀ error,
      expectInteger expression v = .error error ↔ expectInteger expression w = .error error := by
    intro error
    rw [expectInteger_eq_error_iff, expectInteger_eq_error_iff, htypes]
  refine ⟨htypes, fun error => ⟨hrefused error, ?_⟩⟩
  rw [run_integer_eq_error_iff hv, run_integer_eq_error_iff hw]
  exact hrefused error

/-- A declared integer keeps its type when a truth value is assigned to it. -/
theorem static_type_of_reassigned_integer :
    ∃ (environment : Environment) (state next last : RunState) (v w : Value),
      Reached Set.univ ⟨environment, .empty, .empty, .empty⟩ state
      ∧ (value (.reference "n")).run ⟨environment, .empty, .empty, .empty⟩ = .ok v next
      ∧ (value (.reference "n")).run state = .ok w last
      ∧ v = .int 0 ∧ w = .int 1 ∧ v.type = w.type := by
  let tree : Json := .object [("body", .object []),
    ("variables", .array [.object [("name", .text "n"), ("type", .text "int")]])]
  have htree : Program.ofTree tree = .ok ⟨[], [.ofScalar "n" .int none]⟩ := rfl
  have hmade := expressions_are_statically_typed.1 tree _ htree
  let environment : Environment := Environment.empty.put "n" (.scalar (.int 0))
  let first : RunState := ⟨environment, .empty, .empty, .empty⟩
  have hreached : Reached Set.univ first
      { first with environment := environment.put "n" (.scalar (.int 1)) } :=
    .executed (Set.mem_univ default) (.assign (.reference "n") (.literal "true" none)) .start
  refine ⟨environment, _, _, _, .int 0, .int 1, hreached, rfl, rfl, rfl, rfl, ?_⟩
  exact (expressions_are_statically_typed.2 _ environment hmade rfl first first first _ rfl rfl
    .start hreached (.reference "n") (.int 0) (.int 1) _ _ rfl rfl).1

end Run

end PulseTimeline
