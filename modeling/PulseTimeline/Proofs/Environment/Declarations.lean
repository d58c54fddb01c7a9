import PulseTimeline.Proofs.Run.Seeds

set_option autoImplicit false

/-! # Reported declarations

A program reports the first declaration of a name, but a run begins with the variable of the last
one, since every declaration replaces what stands under its name. So the reported declaration is the
one that counts exactly where the first and the last one of a name promise the same variable, as
they do where a name is declared once. Whether a name is declared at all is reported as it is. -/

namespace PulseTimeline

/-! ## What a declaration promises -/

/-- The variable that a declaration promises: a scalar with its value, or an array of its type and
    size whose slots have the values that are given, and zero from there on. -/
inductive Definition.Declares : Definition → Variable → Prop where
  | scalar (name : String) (type : ScalarType) (value : Value) :
    Declares (.scalar name type value) (.scalar value)
  | array (name : String) (type : ScalarType) (values : List Value) {size : Nat}
    {slots : Array Value} (hsize : slots.size = size)
    (hslots : ∀ index (h : index < slots.size), slots[index] = values.getD index type.zero) :
    Declares (.array name type values size) (.array type slots)

namespace Definition

theorem getElem_resized (values : List Value) (size : Nat) (fill : Value) {index : Nat}
    (h : index < (Environment.resized values size fill).length) :
    (Environment.resized values size fill)[index] = values.getD index fill := by
  have hsize : index < size := Environment.length_resized values size fill ▸ h
  simp only [Environment.resized, List.getElem_append, List.length_take, List.getElem_take,
    List.getElem_replicate, List.getD_eq_getElem?_getD]
  by_cases hgiven : index < values.length
  · rw [dif_pos (Nat.lt_min.2 ⟨hsize, hgiven⟩), List.getElem?_eq_getElem hgiven, Option.getD_some]
  · rw [dif_neg (fun hmin => hgiven (Nat.lt_min.1 hmin).2),
      List.getElem?_eq_none (Nat.not_lt.1 hgiven), Option.getD_none]

/-- A declaration seeds the variable that it promises, and promises no other. -/
theorem declares_iff (definition : Definition) (meaning : Variable) :
    definition.Declares meaning ↔ meaning = definition.seed := by
  constructor
  · intro h
    cases h with
    | scalar name type value => rfl
    | @array name type values size slots hsize hslots =>
        refine congrArg (Variable.array type) (Array.ext ?_ fun index hindex hresized => ?_)
        · rw [hsize, List.size_toArray, Environment.length_resized]
        · rw [hslots index hindex, List.getElem_toArray, getElem_resized]
  · rintro rfl
    cases definition with
    | scalar name type value => exact .scalar name type value
    | array name type values size =>
        refine .array name type values ?_ fun index hindex => ?_
        · rw [List.size_toArray, Environment.length_resized]
        · rw [List.getElem_toArray, getElem_resized]

/-- A name has a first declaration exactly if it has a last one. -/
theorem seeding?_eq_none_iff (definitions : List Definition) (name : String) :
    seeding? definitions name = none
      ↔ (definitions.find? fun definition => definition.name == name) = none := by
  simp only [seeding?, List.find?_eq_none, List.mem_reverse]

end Definition

/-! ## Reports -/

/-- What a program reports about a name is so: it is declared if it is bound, and the variable that
    is bound to it is the one that the reported declaration promises. -/
structure Environment.AsReported (program : Program) (environment : Environment) (name : String) :
    Prop where
  unbound : environment.find? name = none ↔ program.definition? name = none
  declared : ∀ definition, program.definition? name = some definition →
    ∃ meaning, environment.find? name = some meaning ∧ definition.Declares meaning

namespace Program

variable {program : Program} {environment : Environment}

theorem find?_eq_none_iff_definition?
    (h : Environment.ofDefinitions program.definitions = .ok environment) (name : String) :
    environment.find? name = none ↔ program.definition? name = none := by
  rw [Environment.find?_of_ofDefinitions h, Option.map_eq_none_iff, Definition.seeding?_eq_none_iff]
  rfl

theorem asReported_iff
    (h : Environment.ofDefinitions program.definitions = .ok environment) (name : String) :
    environment.AsReported program name
      ↔ ∀ reported seeding, program.definition? name = some reported →
        Definition.seeding? program.definitions name = some seeding →
        ∀ meaning, reported.Declares meaning ↔ seeding.Declares meaning := by
  have hfound := Environment.find?_of_ofDefinitions h name
  constructor
  · intro has reported seeding hreported hseeding meaning
    obtain ⟨bound, hbound, hdeclares⟩ := has.declared reported hreported
    rw [hfound, hseeding, Option.map_some, Option.some.injEq] at hbound
    rw [Definition.declares_iff] at hdeclares
    rw [Definition.declares_iff, Definition.declares_iff, hbound, hdeclares]
  · intro hsame
    refine ⟨find?_eq_none_iff_definition? h name, fun reported hreported => ?_⟩
    cases hseeding : Definition.seeding? program.definitions name with
    | none =>
        have hnone := (Definition.seeding?_eq_none_iff _ name).1 hseeding
        rw [definition?, hnone] at hreported
        cases hreported
    | some seeding =>
        refine ⟨seeding.seed, ?_, ?_⟩
        · rw [hfound, hseeding, Option.map_some]
        · exact (hsame reported seeding hreported hseeding _).2 ((seeding.declares_iff _).2 rfl)

/-- **Reports are true where first and last declarations agree.** A run begins with the variables
    that the last declarations of their names promise, and with no others. The names that are
    reported as declared are those; but the reported declaration of a name is the one that its
    variable comes from exactly if the first and the last declaration of the name promise the same
    variable. So it is if all declarations of the name are the same one. -/
theorem reported_iff_first_and_last_agree
    (h : Environment.ofDefinitions program.definitions = .ok environment) :
    program.initialState = .ok ⟨environment, .empty, .empty, .empty⟩
    ∧ (∀ name, environment.find? name = none ↔ program.definition? name = none)
    ∧ (∀ name meaning, environment.find? name = some meaning
      ↔ ∃ seeding, Definition.seeding? program.definitions name = some seeding
        ∧ seeding.Declares meaning)
    ∧ (∀ name, environment.AsReported program name
      ↔ ∀ reported seeding, program.definition? name = some reported →
        Definition.seeding? program.definitions name = some seeding →
        ∀ meaning, reported.Declares meaning ↔ seeding.Declares meaning)
    ∧ ∀ name, (∀ one ∈ program.definitions, ∀ other ∈ program.definitions,
        one.name = name → other.name = name → one = other) →
      environment.AsReported program name := by
  refine ⟨?_, find?_eq_none_iff_definition? h, fun name meaning => ?_, asReported_iff h,
    fun name hsame => (asReported_iff h name).2 fun reported seeding hreported hseeding => ?_⟩
  · rw [initialState, h]
    rfl
  · rw [Environment.find?_of_ofDefinitions h, Option.map_eq_some_iff]
    simp only [Definition.declares_iff, eq_comm]
  · -- Both are declarations of the name, hence one and the same.
    have hone := List.mem_of_find?_eq_some hreported
    have hother := List.mem_reverse.1 (List.mem_of_find?_eq_some hseeding)
    have heq := hsame reported hone seeding hother (by simpa using List.find?_some hreported)
      (by simpa using List.find?_some hseeding)
    exact fun meaning => by rw [heq]

/-- Levels that are declared once, with fewer values than slots, and a name that is declared as an
    integer and then as an array. -/
def reusedName : Program where
  body := []
  definitions := [.scalar "n" .int (.int 1), .array "levels" .real [.real 0.5] 2,
    .array "n" .int [] 1]

/-- The levels are as they are reported, and the array is not. -/
theorem reports_of_reusedName :
    ∃ environment, Environment.ofDefinitions reusedName.definitions = .ok environment
      ∧ environment.bindings.entries
        = [("n", .array .int #[.int 0]), ("levels", .array .real #[.real 0.5, .real 0.0])]
      ∧ reusedName.definition? "n" = some (.scalar "n" .int (.int 1))
      ∧ environment.AsReported reusedName "levels" ∧ ¬environment.AsReported reusedName "n" := by
  have hdefined : Environment.ofDefinitions reusedName.definitions = .ok _ := rfl
  obtain ⟨-, -, -, hiff, hsame⟩ := reported_iff_first_and_last_agree hdefined
  refine ⟨_, rfl, by decide, by decide, hsame "levels" ?_, fun hreported => ?_⟩
  · simp [reusedName, Definition.name]
  · have hagree := (hiff "n").1 hreported _ _ rfl rfl (.scalar (.int 1))
    cases hagree.1 (.scalar "n" .int (.int 1))

/-- A tree that declares a counter twice. -/
def recountedTree : Json :=
  let counter := fun text =>
    Json.object [("name", .text "n"), ("type", .text "INT"), ("value", .array [.text text])]
  .object [("body", .object [("statements", .array [])]),
    ("variables", .array [counter "1", counter "2"])]

/-- The tree is accepted. Its program reports a counter that begins with one, and the counter begins
    with two. -/
theorem recountedTree_is_misreported :
    ∃ program environment, Program.ofTree recountedTree = .ok program
      ∧ Environment.ofDefinitions program.definitions = .ok environment
      ∧ program.definition? "n" = some (.scalar "n" .int (.int 1))
      ∧ environment.find? "n" = some (.scalar (.int 2))
      ∧ ¬environment.AsReported program "n" := by
  refine ⟨_, _, rfl, rfl, rfl, rfl, fun hreported => ?_⟩
  obtain ⟨meaning, hfound, hdeclares⟩ := hreported.declared _ rfl
  cases hdeclares
  cases hfound

end Program

end PulseTimeline
