import PulseTimeline.Proofs.Codec.Storage
import PulseTimeline.Proofs.RawTree.RoundTrip
import PulseTimeline.Proofs.Run.Variables

set_option autoImplicit false

/-! # The types of seeded variables

A run begins with the variables that the declarations seed, the last declaration of a name counting.
Seeding brings an array to its size but casts nothing: a variable is of its declared type exactly if
the initial values of its declaration are. Those of a raw tree are, since they have been cast when
the tree was read; a stored program may declare a variable of one type with a value of another. -/

namespace PulseTimeline

/-! ## Declared types -/

/-- The values that a variable holds. -/
def Variable.values : Variable → List Value
  | scalar value => [value]
  | array _ values => values.toList

namespace Definition

/-- The declared type. -/
def type : Definition → ScalarType
  | scalar _ type _ => type
  | array _ type _ _ => type

/-- The initial values that the variable has room for: an array keeps no more than its size. -/
def keptValues : Definition → List Value
  | scalar _ _ value => [value]
  | array _ _ values size => values.take size

/-- The declaration that seeds the variable of a name: the last one of the name. -/
def seeding? (definitions : List Definition) (name : String) : Option Definition :=
  definitions.reverse.find? fun definition => definition.name == name

/-- A variable of the form that is declared: a scalar, or an array of the declared type and size. -/
def Shapes : Definition → Variable → Prop
  | scalar .., .scalar _ => True
  | array _ type _ size, .array elementType values => elementType = type ∧ values.size = size
  | _, _ => False

end Definition

/-- Every variable is as the declaration that seeds it says: of its form, with values of its type
    only. -/
def Environment.Respects (definitions : List Definition) (environment : Environment) : Prop :=
  ∀ name meaning, environment.find? name = some meaning →
    ∃ definition, Definition.seeding? definitions name = some definition
      ∧ definition.Shapes meaning ∧ ∀ value ∈ meaning.values, value.type = definition.type

/-! ## Seeding -/

namespace Environment

theorem length_resized (values : List Value) (size : Nat) (fill : Value) :
    (resized values size fill).length = size := by
  simp only [resized, List.length_append, List.length_take, List.length_replicate]
  omega

end Environment

namespace Definition

theorem shapes_seed (definition : Definition) : definition.Shapes definition.seed := by
  cases definition with
  | scalar name type value => trivial
  | array name type values size =>
      refine ⟨rfl, ?_⟩
      rw [List.size_toArray, Environment.length_resized]

/-- What fills an array up is of its type, so that only the initial values decide. -/
theorem seed_typed_iff (definition : Definition) :
    (∀ value ∈ definition.seed.values, value.type = definition.type)
      ↔ ∀ value ∈ definition.keptValues, value.type = definition.type := by
  cases definition with
  | scalar name type value => rfl
  | array name type values size =>
      have hfill : ∀ value ∈ List.replicate (size - values.length) type.zero,
          value.type = type := by
        intro value hvalue
        rw [(List.mem_replicate.1 hvalue).2, Value.type_zero]
      show (∀ value ∈ Environment.resized values size type.zero, value.type = type) ↔ _
      rw [Environment.resized, List.forall_mem_append]
      exact and_iff_left hfill

theorem lookup_map_entry (definitions : List Definition) (name : String) :
    (definitions.map entry).lookup name
      = (definitions.find? fun definition => definition.name == name).map seed := by
  induction definitions with
  | nil => rfl
  | cons first rest ih =>
      by_cases heq : first.name = name
      · subst heq
        simp [entry]
      · simp [entry, List.lookup_cons, heq, beq_eq_false_iff_ne.mpr (Ne.symm heq), ih]

theorem seedOf?_eq (definitions : List Definition) (name : String) :
    seedOf? definitions name = (seeding? definitions name).map seed := by
  rw [seedOf?, ← List.map_reverse, lookup_map_entry, seeding?]

/-- The initial values of a definition that has been made have been cast. -/
theorem Made.keptValues_typed {definition : Definition} (h : definition.Made) :
    ∀ value ∈ definition.keptValues, value.type = definition.type := by
  cases definition with
  | scalar name type value => exact List.forall_mem_singleton.2 (RawTree.type_of_made_scalar h)
  | array name type values size =>
      exact fun value hvalue => RawTree.type_of_made_array h value (List.mem_of_mem_take hvalue)

end Definition

namespace Environment

variable {definitions : List Definition} {environment : Environment}

/-- An environment holds what the last declaration of each name seeds. -/
theorem find?_of_ofDefinitions (h : ofDefinitions definitions = .ok environment) (name : String) :
    environment.find? name = (Definition.seeding? definitions name).map Definition.seed := by
  rw [find?, bindings_of_ofDefinitions h, Table.find?_ofList, ← Definition.seedOf?_eq,
    Definition.seedOf?]

theorem respects_iff_of_ofDefinitions (h : ofDefinitions definitions = .ok environment) :
    environment.Respects definitions
      ↔ ∀ name definition, Definition.seeding? definitions name = some definition →
        ∀ value ∈ definition.keptValues, value.type = definition.type := by
  unfold Respects
  constructor
  · intro hrespects name definition hseeding
    have hfound := find?_of_ofDefinitions h name
    rw [hseeding] at hfound
    obtain ⟨seeding, hseeding', -, htyped⟩ := hrespects name definition.seed hfound
    rw [hseeding] at hseeding'
    cases hseeding'
    exact definition.seed_typed_iff.1 htyped
  · intro htyped name meaning hfound
    rw [find?_of_ofDefinitions h] at hfound
    obtain ⟨definition, hseeding, rfl⟩ := Option.map_eq_some_iff.1 hfound
    exact ⟨definition, hseeding, definition.shapes_seed,
      definition.seed_typed_iff.2 (htyped name definition hseeding)⟩

end Environment

namespace Program

variable {program : Program} {environment : Environment}

/-- **Declared types hold where initial values have them.** The variables that the declarations of a
    program set up, however the program was obtained, have the declared names, forms and sizes. They
    are of the declared types throughout exactly if the initial values are, of the last declaration
    of every name, that the variable has room for; so they are for a program of a raw tree. -/
theorem respects_iff_seeds_typed
    (h : Environment.ofDefinitions program.definitions = .ok environment) :
    (environment.Respects program.definitions
      ↔ ∀ name definition, Definition.seeding? program.definitions name = some definition →
        ∀ value ∈ definition.keptValues, value.type = definition.type)
    ∧ (∀ name, environment.find? name = none
      ↔ Definition.seeding? program.definitions name = none)
    ∧ (∀ name definition, Definition.seeding? program.definitions name = some definition →
      ∃ meaning, environment.find? name = some meaning ∧ definition.Shapes meaning)
    ∧ ∀ tree, Program.ofTree tree = .ok program → environment.Respects program.definitions := by
  have hiff := Environment.respects_iff_of_ofDefinitions h
  refine ⟨hiff, fun name => ?_, fun name definition hseeding => ?_, fun tree htree => ?_⟩
  · rw [Environment.find?_of_ofDefinitions h, Option.map_eq_none_iff]
  · refine ⟨definition.seed, ?_, definition.shapes_seed⟩
    rw [Environment.find?_of_ofDefinitions h, hseeding, Option.map_some]
  · refine hiff.2 fun name definition hseeding => ?_
    have hmem := List.mem_reverse.1 (List.mem_of_find?_eq_some hseeding)
    exact (RawTree.made_of_ofTree htree definition hmem).keptValues_typed

/-- Declarations of a truth value and of an integer of one name, and of an array with more initial
    values than it has room for. -/
def redeclaredFlag : Program where
  body := []
  definitions := [.scalar "n" .int (.bool true), .array "flags" .bool [.bool true, .int 7] 1,
    .scalar "n" .int (.int 3)]

/-- The first declaration does not count, and the integer does not reach the array. -/
theorem respect_of_redeclaredFlag :
    ∃ environment, Environment.ofDefinitions redeclaredFlag.definitions = .ok environment
      ∧ environment.bindings.entries
        = [("n", .scalar (.int 3)), ("flags", .array .bool #[.bool true])]
      ∧ environment.Respects redeclaredFlag.definitions := by
  refine ⟨_, rfl, by decide, (respects_iff_seeds_typed rfl).1.2 ?_⟩
  intro name definition hseeding
  have hseeds : Definition.seeding? redeclaredFlag.definitions name
      = if name = "n" then some (.scalar "n" .int (.int 3))
        else if name = "flags" then some (.array "flags" .bool [.bool true, .int 7] 1)
        else none := by
    by_cases hn : name = "n"
    · subst hn
      rfl
    · by_cases hflags : name = "flags"
      · subst hflags
        rfl
      · simp [Definition.seeding?, redeclaredFlag, Definition.name, Ne.symm hn, Ne.symm hflags, hn,
          hflags]
  rw [hseeds] at hseeding
  split at hseeding
  · cases hseeding
    decide
  · split at hseeding
    · cases hseeding
      decide
    · cases hseeding

/-- A stored program that declares an integer with a truth value. -/
def truthAsInteger : Program := ⟨[], [.scalar "n" .int (.bool true)]⟩

/-- The program is read back as it was stored, and its integer holds the truth value. -/
theorem truthAsInteger_is_not_cast :
    ofStored truthAsInteger.encode.render = .ok truthAsInteger ∧ ∃ environment,
      Environment.ofDefinitions truthAsInteger.definitions = .ok environment
      ∧ environment.find? "n" = some (.scalar (.bool true))
      ∧ ¬environment.Respects truthAsInteger.definitions := by
  refine ⟨rfl, _, rfl, rfl, fun hrespects => ?_⟩
  obtain ⟨definition, hseeding, -, htyped⟩ := hrespects "n" _ rfl
  cases hseeding
  exact absurd (htyped (.bool true) List.mem_cons_self) (by decide)

end Program

end PulseTimeline
