import PulseTimeline.Proofs.RawTree.Grammar
import PulseTimeline.RawTree.Program

set_option autoImplicit false

/-! # The grammar of declarations and programs

The rules by which declarations and whole trees are accepted, in the manner of those for statements.
A scalar has a size of one and at most one initial value, an array any other size up to the greatest
and as many initial values or none. -/

namespace PulseTimeline.RawTree

theorem declaredSize_eq_ok_iff {node : Node} {name : String} {size : Nat} :
    declaredSize node name = .ok size
      ↔ node.optional "size" = none ∧ size = 1
        ∨ node.optional "size" = some (.int size) ∧ size ≤ maxArraySize := by
  unfold declaredSize
  split
  · next hnone => simp [hnone, eq_comm]
  · next declared hsome =>
      simp only [hsome, reduceCtorEq, false_and, false_or, Option.some.injEq, Json.int.injEq]
      split
      · next hle =>
          constructor
          · intro h
            cases h
            exact ⟨rfl, hle⟩
          · rintro ⟨heq, -⟩
            cases heq
            rfl
      · next hgt =>
          constructor
          · exact nofun
          · rintro ⟨heq, hle⟩
            cases heq
            exact absurd hle hgt
  · next raw hnat hsome =>
      simp only [hsome, reduceCtorEq, false_and, false_or, Option.some.injEq, false_iff, not_and]
      rintro rfl
      exact absurd rfl (hnat size)

/-- An initial value is a literal of the declared type, bare or in a node of its own. -/
theorem initialValue_object_eq_ok_iff {type : ScalarType} {members : List (String × Json)}
    {v : Value} :
    initialValue type (.object members) = .ok v
      ↔ ∃ node text, Node.of "value" (.object members) ["value"] = .ok node
        ∧ node.Reads "value" (literalText "value") text
        ∧ Value.ofLiteral text (some type) = .ok v := by
  rw [initialValue, except_bind_eq_ok]
  constructor
  · rintro ⟨node, hnode, h⟩
    obtain ⟨text, htext, hvalue⟩ := Node.required_bind_eq_ok.1 h
    exact ⟨node, text, hnode, htext, mapError_eq_ok.1 hvalue⟩
  · rintro ⟨node, text, hnode, htext, hvalue⟩
    exact ⟨node, hnode, Node.required_bind_eq_ok.2 ⟨text, htext, mapError_eq_ok.2 hvalue⟩⟩

/-- The fields that every declaration has: the name, the type and the size. -/
structure Declares (raw : Json) (node : Node) (name : String) (type : ScalarType) (size : Nat) :
    Prop where
  keys : Node.of "declaration" raw ["name", "type", "size", "value"] = .ok node
  named : node.optional "name" = some (.text name)
  typed : ∃ typeName, node.optional "type" = some (.text typeName) ∧ scalarType typeName = .ok type
  sized : declaredSize node name = .ok size

/-- The trees of declarations. -/
inductive DefinitionTree (raw : Json) : Definition → Prop where
  | scalar {node : Node} {name : String} {type : ScalarType} {value : Option Value}
    (hdeclares : Declares raw node name type 1)
    (hvalue : node.ReadsList "value" (initialValue type) value.toList) :
    DefinitionTree raw (.ofScalar name type value)
  | array {node : Node} {name : String} {type : ScalarType} {size : Nat} {values : List Value}
    (hdeclares : Declares raw node name type size) (hsize : size ≠ 1)
    (hvalues : node.ReadsList "value" (initialValue type) values)
    (hlength : values = [] ∨ values.length = size) :
    DefinitionTree raw (.ofArray name type values size)

/-- Scalars and arrays are read alike up to the choice by the size. -/
theorem definition_of_declares {raw : Json} {node : Node} {name : String} {type : ScalarType}
    {size : Nat} {values : List Value} (hdeclares : Declares raw node name type size)
    (hvalues : node.ReadsList "value" (initialValue type) values) :
    definition raw = (if size = 1 then
        if values.length > 1 then .error (.definitionSizeMismatch name size values.length)
        else .ok (.ofScalar name type values.head?)
      else if !values.isEmpty && values.length ≠ size then
        .error (.definitionSizeMismatch name size values.length)
      else .ok (.ofArray name type values size)) := by
  obtain ⟨typeName, htypeName, htype⟩ := hdeclares.typed
  obtain ⟨items, hitems, hvalues⟩ := hvalues
  simp only [definition, hdeclares.keys, Node.requiredString_eq_ok_iff.2 hdeclares.named,
    Node.requiredString_eq_ok_iff.2 htypeName, htype, hdeclares.sized, hitems,
    mapM_eq_ok_iff_forall₂.2 hvalues, ok_bind]
  rfl

theorem definition_iff {raw : Json} {d : Definition} :
    definition raw = .ok d ↔ DefinitionTree raw d := by
  constructor
  · intro h
    obtain ⟨node, hnode, h⟩ := except_bind_eq_ok.1 h
    obtain ⟨name, hname, h⟩ := Node.string_bind_eq_ok.1 h
    obtain ⟨typeName, htypeName, h⟩ := Node.string_bind_eq_ok.1 h
    obtain ⟨type, htype, h⟩ := except_bind_eq_ok.1 h
    obtain ⟨size, hsize, h⟩ := except_bind_eq_ok.1 h
    obtain ⟨values, hvalues, h⟩ := Node.list_bind_eq_ok.1 h
    have hdeclares : Declares raw node name type size :=
      ⟨hnode, hname, ⟨_, htypeName, htype⟩, hsize⟩
    split at h
    · next hone =>
        subst hone
        split at h
        · cases h
        · next hlength =>
            cases h
            refine .scalar hdeclares ?_
            cases values with
            | nil => exact hvalues
            | cons v rest =>
                cases rest with
                | nil => exact hvalues
                | cons w rest => simp at hlength
    · next hsize =>
        split at h
        · cases h
        · next hlength =>
            cases h
            refine .array hdeclares hsize hvalues ?_
            cases values with
            | nil => exact Or.inl rfl
            | cons v rest => exact Or.inr (by simpa using hlength)
  · intro h
    cases h with
    | @scalar node name type value hdeclares hvalue =>
        rw [definition_of_declares hdeclares hvalue, if_pos rfl]
        cases value <;> rfl
    | array hdeclares hsize hvalues hlength =>
        rw [definition_of_declares hdeclares hvalues, if_neg hsize, if_neg]
        rcases hlength with rfl | hlength
        · simp
        · simp [hlength]

theorem ofTree_eq_ok_iff {tree : Json} {program : Program} :
    Program.ofTree tree = .ok program
      ↔ ∃ root, Node.of "program" tree ["body", "variables"] = .ok root
        ∧ root.Reads "body" (block tree.height) program.body
        ∧ root.ReadsList "variables" definition program.definitions := by
  rw [Program.ofTree, except_bind_eq_ok]
  refine exists_congr fun root => and_congr_right fun _ => ?_
  constructor
  · intro h
    obtain ⟨body, hbody, h⟩ := Node.required_bind_eq_ok.1 h
    obtain ⟨definitions, hdefinitions, h⟩ := Node.list_bind_eq_ok.1 h
    cases h
    exact ⟨hbody, hdefinitions⟩
  · rintro ⟨hbody, hdefinitions⟩
    refine Node.required_bind_eq_ok.2 ⟨_, hbody, ?_⟩
    exact Node.list_bind_eq_ok.2 ⟨_, hdefinitions, rfl⟩

/-- Every declared variable has a tree of its own. -/
theorem definitionTree_of_mem {tree : Json} {program : Program}
    (h : Program.ofTree tree = .ok program) {d : Definition} (hd : d ∈ program.definitions) :
    ∃ raw, DefinitionTree raw d := by
  obtain ⟨root, -, -, hdefinitions⟩ := ofTree_eq_ok_iff.1 h
  obtain ⟨-, raw, -, -, hraw⟩ := hdefinitions.exists_of_mem hd
  exact ⟨raw, definition_iff.1 hraw⟩

theorem made_of_ofTree {tree : Json} {program : Program} (h : Program.ofTree tree = .ok program) :
    ∀ d ∈ program.definitions, d.Made := by
  intro d hd
  obtain ⟨raw, htree⟩ := definitionTree_of_mem h hd
  cases htree with
  | scalar => exact .scalar _ _ _
  | array => exact .array _ _ _ _

theorem isSized_of_ofTree {tree : Json} {program : Program}
    (h : Program.ofTree tree = .ok program) : ∀ d ∈ program.definitions, d.IsSized := by
  intro d hd
  obtain ⟨raw, htree⟩ := definitionTree_of_mem h hd
  cases htree with
  | scalar => trivial
  | @array node name type size values hdeclares hsize hvalues hlength =>
      refine ⟨hsize, ?_, ?_⟩
      · rcases declaredSize_eq_ok_iff.1 hdeclares.sized with ⟨-, hone⟩ | ⟨-, hle⟩
        · exact absurd hone hsize
        · exact hle
      · simpa using hlength

end PulseTimeline.RawTree
