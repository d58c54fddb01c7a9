import PulseTimeline.Proofs.Expression.Types
import PulseTimeline.Proofs.Run.Steps

set_option autoImplicit false

/-! # Variables keep their shape

Declarations seed the variables of a run, and nothing but an assignment touches them afterwards. An
assignment writes to a variable that is there already and casts to the type that it finds, so that
names, types and sizes stay as they have been seeded. The values of an array are seeded as they are
given, whatever their types: a slot has the type of its array for certain only once it has been
written to. -/

namespace PulseTimeline

/-! ## Shapes -/

/-- A variable as it may be later on: a scalar keeps its type, and an array its type and its size;
    what stands in a slot stood there before or is of the type of the array. -/
inductive Variable.KeepsShape : Variable → Variable → Prop where
  | scalar {seeded later : Value} (htype : later.type = seeded.type) :
    KeepsShape (.scalar seeded) (.scalar later)
  | array {type : ScalarType} {seeded later : Array Value} (hsize : later.size = seeded.size)
    (hslots : ∀ (index : Nat) (value : Value), later[index]? = some value →
      seeded[index]? = some value ∨ value.type = type) :
    KeepsShape (.array type seeded) (.array type later)

namespace Variable.KeepsShape

variable {seeded earlier later : Variable}

protected theorem refl (seeded : Variable) : seeded.KeepsShape seeded := by
  cases seeded with
  | scalar value => exact .scalar rfl
  | array type values => exact .array rfl fun _ _ hvalue => Or.inl hvalue

protected theorem trans (h : seeded.KeepsShape earlier) (h' : earlier.KeepsShape later) :
    seeded.KeepsShape later := by
  cases h with
  | scalar htype =>
      cases h' with
      | scalar htype' => exact .scalar (htype'.trans htype)
  | array hsize hslots =>
      cases h' with
      | array hsize' hslots' =>
          refine .array (hsize'.trans hsize) fun index value hvalue => ?_
          -- Either the value came in later on, or the earlier variable held it already.
          rcases hslots' index value hvalue with hold | htype
          · exact hslots index value hold
          · exact Or.inr htype

/-- A write to a slot that casts to the type of the array. -/
theorem set (type : ScalarType) (values : Array Value) (position : Fin values.size)
    (value : Value) :
    (Variable.array type values).KeepsShape
      (.array type (values.set position (value.cast type) position.isLt)) := by
  refine .array (Array.size_set _) fun index found hfound => ?_
  rw [Array.getElem?_set] at hfound
  split at hfound
  · cases hfound
    exact Or.inr (Value.type_cast value type)
  · exact Or.inl hfound

end Variable.KeepsShape

namespace Environment

variable {environment next : Environment}

/-- Variables as a step may leave them: under the same names, in their shapes. -/
structure KeepsShape (environment next : Environment) : Prop where
  names : next.bindings.keys = environment.bindings.keys
  shapes : ∀ name meaning, environment.find? name = some meaning →
    ∃ later, next.find? name = some later ∧ meaning.KeepsShape later

namespace KeepsShape

protected theorem refl (environment : Environment) : environment.KeepsShape environment where
  names := rfl
  shapes := fun _ meaning hfound => ⟨meaning, hfound, .refl meaning⟩

theorem put {name : String} {meaning later : Variable}
    (hfound : environment.find? name = some meaning) (hshape : meaning.KeepsShape later) :
    environment.KeepsShape (environment.put name later) where
  names := keys_put hfound later
  shapes := by
    intro other found hother
    by_cases heq : other = name
    · subst heq
      rw [hfound] at hother
      cases hother
      exact ⟨later, find?_put_self environment other later, hshape⟩
    · refine ⟨found, ?_, .refl found⟩
      rw [← hother]
      exact find?_put_of_ne environment later heq

end KeepsShape

/-! ## Assignments -/

theorem keepsShape_assign (environment : Environment) (name : String) (value : Value) :
    environment.KeepsShape (stateAfter (assign name value) environment) :=
  stateAfter_assign (.refl environment) fun current hfound =>
    .put hfound (.scalar (Value.type_cast value current.type))

theorem keepsShape_assignElement (environment : Environment) (name : String) (index : Int64)
    (value : Value) :
    environment.KeepsShape (stateAfter (assignElement name index value) environment) :=
  stateAfter_assignElement (.refl environment) fun type values position hfound =>
    .put hfound (.set type values position value)

theorem Step.keepsShape (h : Step environment next) : environment.KeepsShape next := by
  cases h with
  | assigned name value => exact keepsShape_assign environment name value
  | assignedElement name index value => exact keepsShape_assignElement environment name index value

end Environment

/-! ## Declarations -/

namespace Definition

/-- The variable that a declaration seeds. -/
def seed : Definition → Variable
  | scalar _ _ value => .scalar value
  | array _ type values size => .array type (Environment.resized values size type.zero).toArray

/-- What a declaration files: its variable under its name. -/
def entry (definition : Definition) : String × Variable := (definition.name, definition.seed)

/-- The variable that declarations seed under a name: the last declaration of the name counts. -/
def seedOf? (definitions : List Definition) (name : String) : Option Variable :=
  (definitions.map entry).reverse.lookup name

end Definition

namespace Environment

variable {environment next : Environment}

theorem eq_put_of_define {definition : Definition} {u : Unit}
    (h : (define definition).run environment = .ok u next) :
    next = environment.put definition.name definition.seed := by
  cases definition with
  | scalar name type value =>
      cases h
      rfl
  | array name type values size =>
      simp only [EStateM.run, define] at h
      split at h
      · cases h
      · cases h
        rfl

theorem bindings_of_defineAll {definitions : List Definition}
    (h : (definitions.forM define).run environment = .ok () next) :
    next.bindings
      = (definitions.map Definition.entry).foldl (fun t e => t.insert e.1 e.2)
        environment.bindings := by
  induction definitions generalizing environment with
  | nil =>
      obtain ⟨-, rfl⟩ := run_pure_eq_ok.1 h
      rfl
  | cons first rest ih =>
      have hbind : (define first >>= fun _ => rest.forM define).run environment = .ok () next := h
      obtain ⟨u, middle, hfirst, hrest⟩ := run_bind_eq_ok.1 hbind
      -- The rest goes on from what the first declaration has filed.
      obtain rfl := eq_put_of_define hfirst
      exact ih hrest

/-- Declarations that succeed have filed what they seed, one after the other. -/
theorem bindings_of_ofDefinitions {definitions : List Definition}
    (h : ofDefinitions definitions = .ok environment) :
    environment.bindings = Table.ofList (definitions.map Definition.entry) := by
  unfold ofDefinitions at h
  split at h
  · next hrun =>
      cases h
      exact bindings_of_defineAll hrun
  · cases h

end Environment

theorem Program.bindings_of_initialState {program : Program} {state : RunState}
    (h : program.initialState = .ok state) :
    state.environment.bindings = Table.ofList (program.definitions.map Definition.entry) := by
  obtain ⟨environment, hseeded, h⟩ := except_bind_eq_ok.1 h
  cases h
  exact Environment.bindings_of_ofDefinitions hseeded

/-! ## Runs -/

/-- Variables as they may be wherever a run has come to: those that are declared, in the order of
    their first declarations, and each in the shape with which it has been seeded. -/
structure Environment.DeclaredBy (definitions : List Definition) (environment : Environment) :
    Prop where
  names : environment.bindings.keys = (definitions.map Definition.name).eraseDups
  shapes : ∀ name seeded, Definition.seedOf? definitions name = some seeded →
    ∃ later, environment.find? name = some later ∧ seeded.KeepsShape later

theorem Environment.DeclaredBy.step {definitions : List Definition}
    {environment next : Environment} (h : environment.DeclaredBy definitions)
    (hstep : Step environment next) : next.DeclaredBy definitions where
  names := hstep.keepsShape.names.trans h.names
  shapes := by
    intro name seeded hseeded
    obtain ⟨earlier, hearlier, hshape⟩ := h.shapes name seeded hseeded
    obtain ⟨later, hlater, hshape'⟩ := hstep.keepsShape.shapes name earlier hearlier
    exact ⟨later, hlater, hshape.trans hshape'⟩

theorem Environment.declaredBy_of_bindings {definitions : List Definition}
    {environment : Environment}
    (h : environment.bindings = Table.ofList (definitions.map Definition.entry)) :
    environment.DeclaredBy definitions where
  names := by
    rw [h, Table.keys_ofList, List.map_map]
    rfl
  shapes := by
    intro name seeded hseeded
    refine ⟨seeded, ?_, .refl seeded⟩
    rw [find?, h, Table.find?_ofList]
    exact hseeded

namespace Run

/-- **Variables keep their shape.** A run of a program begins with the variables that the program
    declares, as their last declarations seed them. Wherever it has come to, and where it ends, the
    variables are the same ones, in the order in which their names are first declared, and each has
    the shape with which it has been seeded. -/
theorem variables_keep_their_shape {program : Program} {first : RunState}
    (hfirst : program.initialState = .ok first) (setup : Setup) :
    (∀ name, first.environment.find? name = Definition.seedOf? program.definitions name)
    ∧ (∀ state, Reached {setup} first state → state.environment.DeclaredBy program.definitions)
    ∧ ∀ outcome, program.run setup = .ok outcome →
      outcome.environment.DeclaredBy program.definitions := by
  have hbindings := Program.bindings_of_initialState hfirst
  have hseeded := Environment.declaredBy_of_bindings hbindings
  have hreached : ∀ state, Reached {setup} first state →
      state.environment.DeclaredBy program.definitions := by
    intro state h
    exact h.environment (P := Environment.DeclaredBy program.definitions)
      (fun _ _ hstep hdeclared => hdeclared.step hstep) hseeded
  refine ⟨fun name => ?_, hreached, fun outcome hrun => ?_⟩
  · rw [Environment.find?, hbindings, Table.find?_ofList, Definition.seedOf?]
  · obtain ⟨began, last, hbegan, hlast, rfl⟩ := Program.reached_of_run hrun
    rw [hfirst] at hbegan
    cases hbegan
    exact hreached last hlast

/-- A program that declares a counter twice, and an array with a value of another type. -/
def redeclaredCounter : Program where
  body := [.assign (.reference "n") (.literal "3" none),
    .assign (.cell "flags" (.literal "1" none)) (.literal "5" none)]
  definitions := [.scalar "n" .int (.int 1), .array "flags" .bool [.int 7] 2,
    .scalar "n" .real (.real 0.5)]

/-- The counter stays where it has been declared first, with the type of its second declaration.
    What is written to the array is cast; the value of another type stays. -/
theorem shape_of_redeclaredCounter :
    ∃ first state outcome, redeclaredCounter.initialState = .ok first
      ∧ first.environment.bindings.entries
        = [("n", .scalar (.real 0.5)), ("flags", .array .bool #[.int 7, .bool false])]
      ∧ Reached {default} first state
      ∧ state.environment.bindings.entries
        = [("n", .scalar (.real 3.0)), ("flags", .array .bool #[.int 7, .bool false])]
      ∧ state.environment.DeclaredBy redeclaredCounter.definitions
      ∧ redeclaredCounter.run default = .ok outcome
      ∧ outcome.environment.bindings.entries
        = [("n", .scalar (.real 3.0)), ("flags", .array .bool #[.int 7, .bool true])]
      ∧ outcome.environment.DeclaredBy redeclaredCounter.definitions := by
  obtain ⟨first, state, hfirst, hseeded, hreached, hstate⟩ :
      ∃ first state, redeclaredCounter.initialState = .ok first
        ∧ first.environment.bindings.entries
          = [("n", .scalar (.real 0.5)), ("flags", .array .bool #[.int 7, .bool false])]
        ∧ Reached {default} first state
        ∧ state.environment.bindings.entries
          = [("n", .scalar (.real 3.0)), ("flags", .array .bool #[.int 7, .bool false])] :=
    ⟨_, _, rfl, by decide,
      .executed (Set.mem_singleton default) (.assign (.reference "n") (.literal "3" none)) .start,
      by decide⟩
  have hends : (do
      let outcome ← redeclaredCounter.run default
      return outcome.environment.bindings.entries)
        = .ok [("n", .scalar (.real 3.0)), ("flags", .array .bool #[.int 7, .bool true])] := by
    decide
  obtain ⟨outcome, hrun, houtcome⟩ := except_bind_eq_ok.1 hends
  obtain ⟨-, hkept, hend⟩ := variables_keep_their_shape hfirst default
  exact ⟨first, state, outcome, hfirst, hseeded, hreached, hstate, hkept state hreached, hrun,
    Except.ok.inj houtcome, hend outcome hrun⟩

end Run

end PulseTimeline
