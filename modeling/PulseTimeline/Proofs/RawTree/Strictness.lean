import Mathlib.Data.List.Basic
import PulseTimeline.Proofs.RawTree.Declarations

set_option autoImplicit false

/-! # No key is ignored

Whatever stands in an accepted tree, outside of what is skipped on purpose, is a mapping with known
keys only, a list of such mappings or a scalar. The grammar reaches every corner of a tree, so that
an unknown key anywhere means that the tree is refused. -/

namespace PulseTimeline.RawTree

/-! ## Positions in a tree -/

/-- The names that have a meaning in trees: the kinds of statements, those of expressions, and the
    fields of programs, blocks, declarations, statements and expressions. -/
def vocabulary : List String :=
  ["play", "measure", "align", "assign", "if", "resetPhase", "rampToZero", "wait", "zRotation",
    "for", "switch", "strictTiming", "save"] ++
  ["variable", "literal", "binaryOperation", "unaryOperation", "libFunction", "arrayCell"] ++
  ["body", "variables", "statements", "name", "type", "size", "value", "qe", "namedPulse",
    "rampPulse", "amp", "v0", "duration", "pulse", "measureProcesses", "streamAs",
    "timestampLabel", "target", "expression", "condition", "elseifs", "else", "unsafe", "time",
    "init", "update", "cases", "default", "source", "tag", "left", "right", "op", "libraryName",
    "functionName", "arguments", "arrayVar", "index"]

/-- The members that nobody looks into, given the key under which their mapping stands: locations,
    what steers the hardware in conditions, and the processing of measurements. -/
def Skipped (under : Option String) (field : String) : Prop :=
  field = locationKey ∨ field = "unsafe" ∧ (under = some "if" ∨ under = some "switch")
    ∨ field = "measureProcesses" ∧ under = some "measure"

instance (under : Option String) (field : String) : Decidable (Skipped under field) :=
  inferInstanceAs (Decidable (_ ∨ _ ∧ _ ∨ _ ∧ _))

/-- A tree and the same tree with a member added to one of its mappings that is not within a skipped
    member. The first argument is the key under which the tree stands, if it is the value of a
    member. Where a key is repeated, the first member is the one that is looked into. -/
inductive WithMember (key : String) : Option String → Json → Json → Prop where
  | here {under : Option String} {before after : List (String × Json)} (value : Json) :
    WithMember key under (.object (before ++ after)) (.object (before ++ (key, value) :: after))
  | inMember {under : Option String} {before after : List (String × Json)} {name : String}
    {raw added : Json} (hread : ¬Skipped under name) (hfirst : name ∉ before.map Prod.fst)
    (h : WithMember key (some name) raw added) :
    WithMember key under (.object (before ++ (name, raw) :: after))
      (.object (before ++ (name, added) :: after))
  | inItem {under : Option String} {before after : List Json} {raw added : Json}
    (h : WithMember key none raw added) :
    WithMember key under (.array (before ++ raw :: after)) (.array (before ++ added :: after))

/-- Every mapping that is looked into has known keys only. -/
inductive KnownKeys : Option String → Json → Prop where
  | scalar {under : Option String} {raw : Json} (harray : ∀ items, raw ≠ .array items)
    (hobject : ∀ members, raw ≠ .object members) : KnownKeys under raw
  | array {under : Option String} {items : List Json}
    (hitems : ∀ item ∈ items, KnownKeys none item) : KnownKeys under (.array items)
  | object {under : Option String} {members : List (String × Json)}
    (hkeys : ∀ m ∈ members, m.1 = locationKey ∨ m.1 ∈ vocabulary)
    (hinside : ∀ name value, ¬Skipped under name → members.lookup name = some value →
      KnownKeys (some name) value) : KnownKeys under (.object members)

/-- An unknown key that has been added shows. -/
theorem WithMember.not_knownKeys {key : String} {under : Option String} {raw added : Json}
    (h : WithMember key under raw added) (hkey : key ∉ vocabulary) (hlocation : key ≠ locationKey) :
    ¬KnownKeys under added := by
  induction h with
  | here value =>
      intro hknown
      cases hknown with
      | scalar harray hobject => exact hobject _ rfl
      | object hkeys hinside =>
          rcases hkeys (key, value) (List.mem_append_right _ List.mem_cons_self) with heq | hmem
          · exact hlocation heq
          · exact hkey hmem
  | @inMember under before after name raw added hread hfirst h ih =>
      intro hknown
      cases hknown with
      | scalar harray hobject => exact hobject _ rfl
      | object hkeys hinside =>
          refine ih (hinside name added hread ?_)
          refine List.lookup_eq_some_iff.2 ⟨before, after, rfl, fun m hm => ?_⟩
          rw [bne_iff_ne]
          rintro rfl
          exact hfirst (List.mem_map_of_mem hm)
  | inItem h ih =>
      intro hknown
      cases hknown with
      | scalar harray hobject => exact harray _ rfl
      | array hitems => exact ih (hitems _ (List.mem_append_right _ List.mem_cons_self))

/-! ## Fields -/

/-- What stands in a field, if anything does, has known keys. -/
def Node.FieldKnown (node : Node) (field : String) : Prop :=
  ∀ raw, node.optional field = some raw → KnownKeys (some field) raw

section

variable {α : Type} {node : Node} {field : String} {read : Json → Except TreeError α}

theorem Node.fieldKnown_of_absent (h : node.optional field = none) : node.FieldKnown field := by
  intro raw hraw
  rw [h] at hraw
  cases hraw

theorem Node.Reads.fieldKnown {value : α} (h : node.Reads field read value)
    (hread : ∀ raw, read raw = .ok value → KnownKeys (some field) raw) : node.FieldKnown field := by
  intro raw hraw
  obtain ⟨raw', hraw', hvalue⟩ := h
  rw [hraw] at hraw'
  cases hraw'
  exact hread raw hvalue

theorem Node.ReadsOptional.fieldKnown {value : Option α} (h : node.ReadsOptional field read value)
    (hread : ∀ raw v, read raw = .ok v → KnownKeys (some field) raw) : node.FieldKnown field := by
  rcases h with ⟨hnone, -⟩ | ⟨raw, v, hraw, hv, -⟩
  · exact fieldKnown_of_absent hnone
  · exact Node.Reads.fieldKnown ⟨raw, hraw, hv⟩ fun raw => hread raw v

theorem Node.ReadsList.fieldKnown {values : List α} (h : node.ReadsList field read values)
    (hread : ∀ raw v, read raw = .ok v → KnownKeys none raw) : node.FieldKnown field := by
  obtain ⟨items, hitems, hvalues⟩ := h
  rcases list_eq_ok_iff.1 hitems with ⟨hnone, -⟩ | hsome
  · exact fieldKnown_of_absent hnone
  · intro raw hraw
    rw [hsome] at hraw
    cases hraw
    have hboth := hvalues.imp fun item v hv => And.intro (hread item v hv) hv
    exact .array ((List.forall₂_and_left _ _).1 hboth).1

theorem Node.fieldKnown_of_text {text : String} (h : node.optional field = some (.text text)) :
    node.FieldKnown field := by
  intro raw hraw
  rw [h] at hraw
  cases hraw
  exact .scalar nofun nofun

theorem Node.fieldKnown_of_requiredString {text : String}
    (h : node.requiredString field = .ok text) : node.FieldKnown field :=
  fieldKnown_of_text (requiredString_eq_ok_iff.1 h)

theorem Node.fieldKnown_of_optionalText {text : Option String}
    (h : node.optional field = text.map Json.text) : node.FieldKnown field := by
  cases text with
  | none => exact fieldKnown_of_absent h
  | some text => exact fieldKnown_of_text h

end

/-! ## Nodes -/

theorem Node.knownKeys {under : Option String} {kind : String} {raw : Json}
    {recognized : List String} {node : Node} (hnode : Node.of kind raw recognized = .ok node)
    (hrecognized : ∀ field ∈ recognized, field ∈ vocabulary)
    (hfields : recognized.Forall fun field => ¬Skipped under field → node.FieldKnown field) :
    KnownKeys under raw := by
  obtain ⟨members, rfl, hkeys, rfl⟩ := Node.of_eq_ok_iff.1 hnode
  refine .object (fun m hm => (hkeys m hm).imp_right (hrecognized _)) ?_
  intro field value hread hvalue
  obtain ⟨before, after, rfl, -⟩ := List.lookup_eq_some_iff.1 hvalue
  rcases hkeys (field, value) (List.mem_append_right _ List.mem_cons_self) with heq | hfield
  · cases heq
    exact absurd (Or.inl rfl) hread
  · cases value with
    | null => exact .scalar nofun nofun
    | _ =>
        refine List.forall_iff_forall_mem.1 hfields field hfield hread _ ?_
        rw [Node.optional, hvalue]

theorem knownKeys_of_singleEntry {under : Option String} {category kind : String} {raw body : Json}
    (hentry : singleEntry category raw = .ok (kind, body)) (hkind : kind ∈ vocabulary)
    (hbody : KnownKeys (some kind) body) : KnownKeys under raw := by
  obtain ⟨members, rfl, hfilter⟩ := singleEntry_eq_ok_iff.1 hentry
  have honly : ∀ m ∈ members, m.1 ≠ locationKey → m = (kind, body) := by
    intro m hm hne
    have hmem : m ∈ members.filter fun m => m.1 != locationKey :=
      List.mem_filter.2 ⟨hm, bne_iff_ne.2 hne⟩
    rwa [hfilter, List.mem_singleton] at hmem
  refine .object (fun m hm => ?_) fun name value hread hvalue => ?_
  · by_cases heq : m.1 = locationKey
    · exact Or.inl heq
    · rw [honly m hm heq]
      exact Or.inr hkind
  · obtain ⟨before, after, rfl, -⟩ := List.lookup_eq_some_iff.1 hvalue
    have hne : name ≠ locationKey := by
      rintro rfl
      exact hread (Or.inl rfl)
    cases honly (name, value) (List.mem_append_right _ List.mem_cons_self) hne
    exact hbody

theorem IsEntry.knownKeys {under : Option String} {category kind : String}
    {recognized : List String} {raw : Json} {node : Node}
    (hnode : IsEntry category kind recognized raw node)
    (hkind : kind ∈ vocabulary) (hrecognized : ∀ field ∈ recognized, field ∈ vocabulary)
    (hfields : recognized.Forall fun field =>
      ¬Skipped (some kind) field → node.FieldKnown field) :
    KnownKeys under raw := by
  obtain ⟨body, hentry, hnode⟩ := hnode
  exact knownKeys_of_singleEntry hentry hkind (Node.knownKeys hnode hrecognized hfields)

theorem knownKeys_of_nameIn {under : Option String} {kind name : String} {raw : Json}
    (h : nameIn kind raw = .ok name) : KnownKeys under raw := by
  obtain ⟨node, hnode, hname⟩ := nameIn_eq_ok_iff.1 h
  exact Node.knownKeys hnode (by decide) fun _ => Node.fieldKnown_of_text hname

theorem fieldKnown_of_elements {node : Node} {names : List String} (h : elements node = .ok names) :
    node.FieldKnown "qe" := by
  rcases elements_eq_ok_iff.1 h with hlist | ⟨name, hname, -⟩
  · exact hlist.fieldKnown fun _ _ => knownKeys_of_nameIn
  · exact hname.fieldKnown fun _ => knownKeys_of_nameIn

theorem knownKeys_of_literalText {under : Option String} {kind text : String} {raw : Json}
    (h : literalText kind raw = .ok text) : KnownKeys under raw := by
  cases raw with
  | array items => cases h
  | object members => cases h
  | _ => exact .scalar nofun nofun

/-! ## Expressions -/

theorem knownKeys_of_expression {height : Nat} {under : Option String} {raw : Json} {e : Expression}
    (h : expression height raw = .ok e) : KnownKeys under raw := by
  induction height generalizing under raw e with
  | zero => cases h
  | succ height ih =>
      cases expression_iff.1 h with
      | reference hentry hname =>
          exact knownKeys_of_singleEntry hentry (by decide) (knownKeys_of_nameIn hname)
      | literal hnode htext hname htype hvalue =>
          exact hnode.knownKeys (by decide) (by decide)
            ⟨fun _ => htext.fieldKnown fun _ => knownKeys_of_literalText,
              fun _ => Node.fieldKnown_of_optionalText hname⟩
      | binary hnode hoperator hleft hright =>
          obtain ⟨name, hname, -⟩ := except_bind_eq_ok.1 hoperator
          exact hnode.knownKeys (by decide) (by decide)
            ⟨fun _ => hleft.fieldKnown fun _ => ih, fun _ => hright.fieldKnown fun _ => ih,
              fun _ => Node.fieldKnown_of_requiredString hname⟩
      | unary hnode hoperator hoperand =>
          obtain ⟨name, hname, -⟩ := except_bind_eq_ok.1 hoperator
          exact hnode.knownKeys (by decide) (by decide)
            ⟨fun _ => Node.fieldKnown_of_requiredString hname,
              fun _ => hoperand.fieldKnown fun _ => ih⟩
      | call hnode harguments hlibrary hfunction =>
          exact hnode.knownKeys (by decide) (by decide)
            ⟨fun _ => Node.fieldKnown_of_text hlibrary,
              fun _ => Node.fieldKnown_of_text hfunction,
              fun _ => harguments.fieldKnown fun _ _ => ih⟩
      | cell hnode harray hindex =>
          exact hnode.knownKeys (by decide) (by decide)
            ⟨fun _ => harray.fieldKnown fun _ => knownKeys_of_nameIn,
              fun _ => hindex.fieldKnown fun _ => ih⟩

/-! ## Statements -/

theorem fieldKnown_of_pulse {height : Nat} {node : Node} {p : Pulse}
    (h : pulse height node = .ok p) :
    node.FieldKnown "namedPulse" ∧ node.FieldKnown "rampPulse" := by
  rcases pulse_eq_ok_iff.1 h with ⟨operation, hname, hnone, -⟩ |
    ⟨raw, ramp, slope, hnone, hraw, hramp, hslope, -⟩
  · exact ⟨hname.fieldKnown fun _ => knownKeys_of_nameIn, Node.fieldKnown_of_absent hnone⟩
  · refine ⟨Node.fieldKnown_of_absent hnone, fun raw' hraw' => ?_⟩
    rw [hraw] at hraw'
    cases hraw'
    exact Node.knownKeys hramp (by decide) fun _ =>
      hslope.fieldKnown fun _ => knownKeys_of_expression

theorem knownKeys_of_amplitude {height : Nat} {under : Option String} {raw : Json} {e : Expression}
    (h : amplitude height raw = .ok e) : KnownKeys under raw := by
  obtain ⟨node, hnode, hfactor⟩ := amplitude_eq_ok_iff.1 h
  exact Node.knownKeys hnode (by decide) fun _ =>
    hfactor.fieldKnown fun _ => knownKeys_of_expression

/-- What holds at a height if whatever is accepted at this height has known keys. -/
structure Strict (height : Nat) : Prop where
  statement : ∀ {under raw st}, statement height raw = .ok st → KnownKeys under raw
  block : ∀ {under raw body}, block height raw = .ok body → KnownKeys under raw
  guarded : ∀ {under kind guard raw branch}, guard ∈ vocabulary →
    guarded height kind guard raw = .ok branch → KnownKeys under raw

theorem Strict.block_succ {height : Nat} (ih : Strict height) {under : Option String} {raw : Json}
    {body : List Statement} (h : RawTree.block (height + 1) raw = .ok body) :
    KnownKeys under raw := by
  obtain ⟨node, hnode, hstatements⟩ := block_iff.1 h
  exact Node.knownKeys hnode (by decide) fun _ => hstatements.fieldKnown fun _ _ => ih.statement

theorem Strict.guarded_succ {height : Nat} (ih : Strict height) {under : Option String}
    {kind guard : String} {raw : Json} {branch : Expression × List Statement}
    (hguard : guard ∈ vocabulary)
    (h : RawTree.guarded (height + 1) kind guard raw = .ok branch) : KnownKeys under raw := by
  obtain ⟨node, hnode, hcondition, hbody⟩ := guarded_iff.1 h
  have hrecognized : ∀ field ∈ [guard, "body"], field ∈ vocabulary := by
    intro field hfield
    rcases List.mem_pair.1 hfield with rfl | rfl
    · exact hguard
    · decide
  exact Node.knownKeys hnode hrecognized
    ⟨fun _ => hcondition.fieldKnown fun _ => knownKeys_of_expression,
      fun _ => hbody.fieldKnown fun _ => ih.block⟩

theorem Strict.statement_succ {height : Nat} (ih : Strict height) {under : Option String}
    {raw : Json} {st : Statement} (h : RawTree.statement (height + 1) raw = .ok st) :
    KnownKeys under raw := by
  cases statement_iff.1 h with
  | play hnode hpulse hamplitude hduration helement =>
      exact hnode.knownKeys (by decide) (by decide)
        ⟨fun _ => helement.fieldKnown fun _ => knownKeys_of_nameIn,
          fun _ => (fieldKnown_of_pulse hpulse).1, fun _ => (fieldKnown_of_pulse hpulse).2,
          fun _ => hamplitude.fieldKnown fun _ _ => knownKeys_of_amplitude,
          fun _ => hduration.fieldKnown fun _ _ => knownKeys_of_expression⟩
  | measure hnode hprocesses hstream hlabel hoperation helement =>
      exact hnode.knownKeys (by decide) (by decide)
        ⟨fun _ => helement.fieldKnown fun _ => knownKeys_of_nameIn,
          fun _ => hoperation.fieldKnown fun _ _ => knownKeys_of_nameIn,
          fun hread => absurd (by decide) hread, fun _ => Node.fieldKnown_of_optionalText hstream,
          fun _ => Node.fieldKnown_of_optionalText hlabel⟩
  | align hnode helements =>
      exact hnode.knownKeys (by decide) (by decide) fun _ => fieldKnown_of_elements helements
  | assign hnode htarget hvalue =>
      exact hnode.knownKeys (by decide) (by decide)
        ⟨fun _ => htarget.fieldKnown fun _ => knownKeys_of_expression,
          fun _ => hvalue.fieldKnown fun _ => knownKeys_of_expression⟩
  | branch hnode hcondition hbody helseIfs helseBody =>
      exact hnode.knownKeys (by decide) (by decide)
        ⟨fun _ => hcondition.fieldKnown fun _ => knownKeys_of_expression,
          fun _ => hbody.fieldKnown fun _ => ih.block,
          fun _ => helseIfs.fieldKnown fun _ _ => ih.guarded (by decide),
          fun _ => helseBody.fieldKnown fun _ _ => ih.block,
          fun hread => absurd (by decide) hread⟩
  | resetPhase hnode helements =>
      exact hnode.knownKeys (by decide) (by decide) fun _ => fieldKnown_of_elements helements
  | rampToZero hnode hduration helement =>
      exact hnode.knownKeys (by decide) (by decide)
        ⟨fun _ => helement.fieldKnown fun _ => knownKeys_of_nameIn,
          fun _ => hduration.fieldKnown fun _ _ => knownKeys_of_expression⟩
  | wait hnode hduration helements =>
      exact hnode.knownKeys (by decide) (by decide)
        ⟨fun _ => hduration.fieldKnown fun _ => knownKeys_of_expression,
          fun _ => fieldKnown_of_elements helements⟩
  | frameRotation hnode hangle helements =>
      exact hnode.knownKeys (by decide) (by decide)
        ⟨fun _ => hangle.fieldKnown fun _ => knownKeys_of_expression,
          fun _ => fieldKnown_of_elements helements⟩
  | loop hnode hinit hupdate hcondition hbody =>
      exact hnode.knownKeys (by decide) (by decide)
        ⟨fun _ => hinit.fieldKnown fun _ _ => ih.block,
          fun _ => hcondition.fieldKnown fun _ => knownKeys_of_expression,
          fun _ => hupdate.fieldKnown fun _ _ => ih.block,
          fun _ => hbody.fieldKnown fun _ => ih.block⟩
  | switch hnode hsubject hcases hdefault =>
      exact hnode.knownKeys (by decide) (by decide)
        ⟨fun _ => hsubject.fieldKnown fun _ => knownKeys_of_expression,
          fun _ => hcases.fieldKnown fun _ _ => ih.guarded (by decide),
          fun _ => hdefault.fieldKnown fun _ _ => ih.block, fun hread => absurd (by decide) hread⟩
  | strictTiming hnode hbody =>
      exact hnode.knownKeys (by decide) (by decide) fun _ => hbody.fieldKnown fun _ => ih.block
  | save hnode hvalue hstream =>
      exact hnode.knownKeys (by decide) (by decide)
        ⟨fun _ => hvalue.fieldKnown fun _ => knownKeys_of_expression,
          fun _ => Node.fieldKnown_of_text hstream⟩

theorem strict (height : Nat) : Strict height := by
  induction height with
  | zero =>
      constructor
      · intro under raw st h
        cases h
      · intro under raw body h
        cases h
      · intro under kind guard raw branch hguard h
        cases h
  | succ height ih => exact ⟨ih.statement_succ, ih.block_succ, ih.guarded_succ⟩

/-! ## Declarations -/

theorem knownKeys_of_initialValue {under : Option String} {type : ScalarType} {raw : Json}
    {v : Value} (h : initialValue type raw = .ok v) : KnownKeys under raw := by
  cases raw with
  | object members =>
      obtain ⟨node, text, hnode, htext, -⟩ := initialValue_object_eq_ok_iff.1 h
      exact Node.knownKeys hnode (by decide) fun _ =>
        htext.fieldKnown fun _ => knownKeys_of_literalText
  | array items => cases h
  | _ => exact .scalar nofun nofun

theorem Declares.knownKeys {under : Option String} {raw : Json} {node : Node} {name : String}
    {type : ScalarType} {size : Nat} {values : List Value}
    (h : Declares raw node name type size)
    (hvalues : node.ReadsList "value" (initialValue type) values) : KnownKeys under raw := by
  obtain ⟨typeName, htypeName, -⟩ := h.typed
  have hsize : node.FieldKnown "size" := by
    rcases declaredSize_eq_ok_iff.1 h.sized with ⟨hnone, -⟩ | ⟨hsome, -⟩
    · exact Node.fieldKnown_of_absent hnone
    · intro raw hraw
      rw [hsome] at hraw
      cases hraw
      exact .scalar nofun nofun
  exact Node.knownKeys h.keys (by decide)
    ⟨fun _ => Node.fieldKnown_of_text h.named, fun _ => Node.fieldKnown_of_text htypeName,
      fun _ => hsize, fun _ => hvalues.fieldKnown fun _ _ => knownKeys_of_initialValue⟩

theorem knownKeys_of_definition {under : Option String} {raw : Json} {d : Definition}
    (h : definition raw = .ok d) : KnownKeys under raw := by
  cases definition_iff.1 h with
  | scalar hdeclares hvalue => exact hdeclares.knownKeys hvalue
  | array hdeclares hsize hvalues hlength => exact hdeclares.knownKeys hvalues

/-! ## Programs -/

theorem knownKeys_of_ofTree {tree : Json} {program : Program}
    (h : Program.ofTree tree = .ok program) : KnownKeys none tree := by
  obtain ⟨root, hroot, hbody, hdefinitions⟩ := ofTree_eq_ok_iff.1 h
  exact Node.knownKeys hroot (by decide)
    ⟨fun _ => hbody.fieldKnown fun _ => (strict _).block,
      fun _ => hdefinitions.fieldKnown fun _ _ => knownKeys_of_definition⟩

/-- **No key is dropped silently.** A member with a key that has no meaning in trees, added with any
    value to any mapping of a tree that is not within a skipped member, leaves a tree that is
    refused. -/
theorem unknown_keys_are_refused {key : String} {tree added : Json} (hkey : key ∉ vocabulary)
    (hlocation : key ≠ locationKey) (hadded : WithMember key none tree added) :
    ∃ error, Program.ofTree added = .error error := by
  cases h : Program.ofTree added with
  | error error => exact ⟨error, rfl⟩
  | ok program => exact absurd (knownKeys_of_ofTree h) (hadded.not_knownKeys hkey hlocation)

/-- A tree with a condition is accepted, and refused with a null member added to the literal. -/
theorem refusal_of_note_in_condition :
    let tree (literal : List (String × Json)) : Json :=
      .object [("body", .object [("statements", .array [.object [("if", .object
        [("body", .object []), ("condition", .object [("literal", .object literal)]),
          ("unsafe", .object [("note", .null)])])]])])]
    "note" ∉ vocabulary ∧ "note" ≠ locationKey
      ∧ Program.ofTree (tree [("value", .text "true")])
        = .ok ⟨[.branch (.literal "true" none) [] [] none], []⟩
      ∧ WithMember "note" none (tree [("value", .text "true")])
        (tree [("note", .null), ("value", .text "true")])
      ∧ ∃ error, Program.ofTree (tree [("note", .null), ("value", .text "true")])
        = .error error := by
  intro tree
  have hkey : "note" ∉ vocabulary := by decide
  have hadded : WithMember "note" none (tree [("value", .text "true")])
      (tree [("note", .null), ("value", .text "true")]) := by
    refine @WithMember.inMember _ _ [] _ "body" _ _ (by decide) nofun ?_
    refine @WithMember.inMember _ _ [] _ "statements" _ _ (by decide) nofun ?_
    refine @WithMember.inItem _ _ [] _ _ _ ?_
    refine @WithMember.inMember _ _ [] _ "if" _ _ (by decide) nofun ?_
    refine @WithMember.inMember _ _ [("body", .object [])] _ "condition" _ _ (by decide)
      (by decide) ?_
    refine @WithMember.inMember _ _ [] _ "literal" _ _ (by decide) nofun ?_
    exact @WithMember.here _ _ [] _ .null
  exact ⟨hkey, by decide, rfl, hadded, unknown_keys_are_refused hkey (by decide) hadded⟩

end PulseTimeline.RawTree
