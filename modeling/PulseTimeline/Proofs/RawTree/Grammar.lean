import PulseTimeline.Proofs.RawTree.Nodes
import PulseTimeline.Proofs.Syntax
import PulseTimeline.RawTree.Statement

set_option autoImplicit false

/-! # The grammar of raw trees

A tree is accepted exactly if it is built by a few rules, one for each kind of node, that say what
its fields have to be. `expression_iff`, `block_iff`, `guarded_iff` and `statement_iff` state this
one level deep, the fields being trees for a lower height; whatever is to be shown of accepted trees
goes by these rules. -/

namespace PulseTimeline

namespace RawTree

/-! ## Fields -/

/-- The node of the given kind that is the only entry of a mapping, with its keys checked. -/
def IsEntry (category kind : String) (recognized : List String) (raw : Json) (node : Node) : Prop :=
  ∃ body, singleEntry category raw = .ok (kind, body) ∧ Node.of kind body recognized = .ok node

/-- Where an entry is treated by its kind, it is treated as a node of that kind. -/
theorem IsEntry.bind_eq_ok {α : Type} {category kind : String} {recognized : List String}
    {raw : Json} {node : Node} {f : String × Json → Except TreeError α}
    {g : Node → Except TreeError α} {a : α} (hnode : IsEntry category kind recognized raw node)
    (hf : ∀ body, f (kind, body) = Node.of kind body recognized >>= g) (hg : g node = .ok a) :
    (singleEntry category raw >>= f) = .ok a := by
  obtain ⟨body, hentry, hbody⟩ := hnode
  refine except_bind_eq_ok.2 ⟨(kind, body), hentry, ?_⟩
  rw [hf]
  exact except_bind_eq_ok.2 ⟨node, hbody, hg⟩

namespace Node

variable {α β : Type} {node : Node} {field : String} {read : Json → Except TreeError α} {b : β}

/-- A field that has to be there, and what it is read as. -/
def Reads (node : Node) (field : String) (read : Json → Except TreeError α) (value : α) : Prop :=
  ∃ raw, node.optional field = some raw ∧ read raw = .ok value

/-- A field that may be absent, and what it is read as. -/
def ReadsOptional (node : Node) (field : String) (read : Json → Except TreeError α)
    (value : Option α) : Prop :=
  node.optional field = none ∧ value = none
    ∨ ∃ raw v, node.optional field = some raw ∧ read raw = .ok v ∧ value = some v

theorem Reads.optional {value : α} (h : node.Reads field read value) :
    node.ReadsOptional field read (some value) := by
  obtain ⟨raw, hraw, hvalue⟩ := h
  exact Or.inr ⟨raw, value, hraw, hvalue, rfl⟩

/-- A field with a list, and what its items are read as. -/
def ReadsList (node : Node) (field : String) (read : Json → Except TreeError α)
    (values : List α) : Prop :=
  ∃ items, node.list field = .ok items ∧ List.Forall₂ (fun raw v => read raw = .ok v) items values

theorem ReadsList.exists_of_mem {values : List α} (h : node.ReadsList field read values) {value : α}
    (hmem : value ∈ values) : ∃ items raw, node.list field = .ok items ∧ raw ∈ items
      ∧ read raw = .ok value := by
  obtain ⟨items, hitems, hvalues⟩ := h
  obtain ⟨raw, hraw, hvalue⟩ := mem_of_mapM_eq_ok (mapM_eq_ok_iff_forall₂.2 hvalues) value hmem
  exact ⟨items, raw, hitems, hraw, hvalue⟩

theorem required_bind_eq_ok {f : α → Except TreeError β} :
    (node.required field >>= fun raw => read raw >>= f) = .ok b
      ↔ ∃ value, node.Reads field read value ∧ f value = .ok b := by
  simp only [except_bind_eq_ok, required_eq_ok_iff]
  constructor
  · rintro ⟨raw, hraw, value, hvalue, h⟩
    exact ⟨value, ⟨raw, hraw, hvalue⟩, h⟩
  · rintro ⟨value, ⟨raw, hraw, hvalue⟩, h⟩
    exact ⟨raw, hraw, value, hvalue, h⟩

theorem optional_bind_eq_ok {f : Option α → Except TreeError β} :
    ((node.optional field).mapM read >>= f) = .ok b
      ↔ ∃ value, node.ReadsOptional field read value ∧ f value = .ok b := by
  rw [except_bind_eq_ok]
  exact exists_congr fun value => and_congr_left fun _ => optionMapM_eq_ok_iff

theorem list_bind_eq_ok {f : List α → Except TreeError β} :
    (node.list field >>= fun items => items.mapM read >>= f) = .ok b
      ↔ ∃ values, node.ReadsList field read values ∧ f values = .ok b := by
  simp only [except_bind_eq_ok, mapM_eq_ok_iff_forall₂]
  constructor
  · rintro ⟨items, hitems, values, hvalues, h⟩
    exact ⟨values, ⟨items, hitems, hvalues⟩, h⟩
  · rintro ⟨values, ⟨items, hitems, hvalues⟩, h⟩
    exact ⟨items, hitems, values, hvalues, h⟩

theorem string_bind_eq_ok {f : String → Except TreeError β} :
    (node.requiredString field >>= f) = .ok b
      ↔ ∃ text, node.optional field = some (.text text) ∧ f text = .ok b := by
  rw [except_bind_eq_ok]
  exact exists_congr fun text => and_congr_left fun _ => requiredString_eq_ok_iff

end Node

theorem element_eq_ok_iff {node : Node} {name : String} :
    element node = .ok name ↔ node.Reads "qe" (nameIn "qe") name := by
  rw [element, except_bind_eq_ok]
  exact exists_congr fun raw => and_congr_left fun _ => Node.required_eq_ok_iff

theorem nameIn_array_ne_ok {kind name : String} {items : List Json} :
    nameIn kind (.array items) ≠ .ok name := by
  intro h
  cases h

/-- The elements of a node are a list of names, or a single one. -/
theorem elements_eq_ok_iff {node : Node} {names : List String} :
    elements node = .ok names
      ↔ node.ReadsList "qe" (nameIn "qe") names
        ∨ ∃ name, node.Reads "qe" (nameIn "qe") name ∧ names = [name] := by
  unfold elements
  split
  · next hnone =>
      simp only [Node.ReadsList, Node.Reads, Node.list_eq_ok_iff, hnone, true_and, reduceCtorEq,
        false_and, exists_false, or_false, exists_eq_left, List.forall₂_nil_left_iff]
      exact ⟨fun h => by cases h; rfl, fun h => by rw [h]⟩
  · next items hitems =>
      simp only [Node.ReadsList, Node.Reads, Node.list_eq_ok_iff, hitems, reduceCtorEq, false_and,
        false_or, Option.some.injEq, Json.array.injEq, exists_eq_left', nameIn_array_ne_ok,
        exists_false, or_false, mapM_eq_ok_iff_forall₂]
  · next raw hnoList hraw =>
      have hlist : ∀ items, node.list "qe" ≠ .ok items := by
        intro items hitems
        rcases Node.list_eq_ok_iff.1 hitems with ⟨hnone, -⟩ | hsome
        · rw [hraw] at hnone
          cases hnone
        · rw [hraw] at hsome
          exact hnoList items (Option.some.inj hsome)
      simp only [Node.ReadsList, hlist, false_and, exists_false, false_or, Node.Reads, hraw,
        Option.some.injEq, exists_eq_left']
      constructor
      · intro h
        obtain ⟨name, hname, h⟩ := except_bind_eq_ok.1 h
        cases h
        exact ⟨name, hname, rfl⟩
      · rintro ⟨name, hname, rfl⟩
        exact except_bind_eq_ok.2 ⟨name, hname, rfl⟩

/-! ## Expressions -/

/-- The trees of expressions, one rule for each kind. -/
inductive ExpressionTree (height : Nat) (raw : Json) : Expression → Prop where
  | reference {name : String} {body : Json}
    (hentry : singleEntry "expression" raw = .ok ("variable", body))
    (hname : nameIn "variable" body = .ok name) : ExpressionTree height raw (.reference name)
  | literal {node : Node} {text : String} {name : Option String} {type : Option ScalarType}
    {value : Value} (hnode : IsEntry "expression" "literal" ["value", "type"] raw node)
    (htext : node.Reads "value" (literalText "literal") text)
    (hname : node.optional "type" = name.map Json.text) (htype : name.mapM scalarType = .ok type)
    (hvalue : Value.ofLiteral text type = .ok value) :
    ExpressionTree height raw (.literal text type)
  | binary {node : Node} {left right : Expression} {operator : BinaryOperator}
    (hnode : IsEntry "expression" "binaryOperation" ["left", "right", "op"] raw node)
    (hoperator : binaryOperator node = .ok operator)
    (hleft : node.Reads "left" (expression height) left)
    (hright : node.Reads "right" (expression height) right) :
    ExpressionTree height raw (.binary left operator right)
  | unary {node : Node} {operand : Expression} {operator : UnaryOperator}
    (hnode : IsEntry "expression" "unaryOperation" ["op", "value"] raw node)
    (hoperator : unaryOperator node = .ok operator)
    (hoperand : node.Reads "value" (expression height) operand) :
    ExpressionTree height raw (.unary operator operand)
  | call {node : Node} {library function : String} {arguments : List Expression}
    (hnode : IsEntry "expression" "libFunction" ["libraryName", "functionName", "arguments"] raw
      node)
    (harguments : node.ReadsList "arguments" (expression height) arguments)
    (hlibrary : node.optional "libraryName" = some (.text library))
    (hfunction : node.optional "functionName" = some (.text function)) :
    ExpressionTree height raw (.call library function arguments)
  | cell {node : Node} {array : String} {index : Expression}
    (hnode : IsEntry "expression" "arrayCell" ["arrayVar", "index"] raw node)
    (harray : node.Reads "arrayVar" (nameIn "arrayVar") array)
    (hindex : node.Reads "index" (expression height) index) :
    ExpressionTree height raw (.cell array index)

theorem literalExpression_eq_ok {body : Json} {e : Expression}
    (h : literalExpression body = .ok e) :
    ∃ node text name type value, Node.of "literal" body ["value", "type"] = .ok node
      ∧ node.Reads "value" (literalText "literal") text
      ∧ node.optional "type" = Option.map Json.text name ∧ name.mapM scalarType = .ok type
      ∧ Value.ofLiteral text type = .ok value ∧ e = .literal text type := by
  obtain ⟨node, hnode, h⟩ := except_bind_eq_ok.1 h
  obtain ⟨text, htext, h⟩ := Node.required_bind_eq_ok.1 h
  obtain ⟨name, hname, h⟩ := except_bind_eq_ok.1 h
  obtain ⟨type, htype, h⟩ := except_bind_eq_ok.1 h
  obtain ⟨value, hvalue, h⟩ := except_bind_eq_ok.1 h
  cases h
  exact ⟨node, text, name, type, value, hnode, htext, Node.optionalString_eq_ok_iff.1 hname, htype,
    mapError_eq_ok.1 hvalue, rfl⟩

theorem expression_iff {height : Nat} {raw : Json} {e : Expression} :
    expression (height + 1) raw = .ok e ↔ ExpressionTree height raw e := by
  constructor
  · intro h
    rw [expression] at h
    obtain ⟨⟨kind, body⟩, hentry, h⟩ := except_bind_eq_ok.1 h
    dsimp only at h
    split at h
    · obtain ⟨name, hname, h⟩ := except_bind_eq_ok.1 h
      cases h
      exact .reference hentry hname
    · obtain ⟨node, text, name, type, value, hnode, htext, hname, htype, hvalue, rfl⟩ :=
        literalExpression_eq_ok h
      exact .literal ⟨body, hentry, hnode⟩ htext hname htype hvalue
    · obtain ⟨node, hnode, h⟩ := except_bind_eq_ok.1 h
      obtain ⟨operator, hoperator, h⟩ := except_bind_eq_ok.1 h
      obtain ⟨left, hleft, h⟩ := Node.required_bind_eq_ok.1 h
      obtain ⟨right, hright, h⟩ := Node.required_bind_eq_ok.1 h
      cases h
      exact .binary ⟨body, hentry, hnode⟩ hoperator hleft hright
    · obtain ⟨node, hnode, h⟩ := except_bind_eq_ok.1 h
      obtain ⟨operator, hoperator, h⟩ := except_bind_eq_ok.1 h
      obtain ⟨operand, hoperand, h⟩ := Node.required_bind_eq_ok.1 h
      cases h
      exact .unary ⟨body, hentry, hnode⟩ hoperator hoperand
    · obtain ⟨node, hnode, h⟩ := except_bind_eq_ok.1 h
      obtain ⟨arguments, harguments, h⟩ := Node.list_bind_eq_ok.1 h
      obtain ⟨library, hlibrary, h⟩ := Node.string_bind_eq_ok.1 h
      obtain ⟨function, hfunction, h⟩ := Node.string_bind_eq_ok.1 h
      cases h
      exact .call ⟨body, hentry, hnode⟩ harguments hlibrary hfunction
    · obtain ⟨node, hnode, h⟩ := except_bind_eq_ok.1 h
      obtain ⟨array, harray, h⟩ := Node.required_bind_eq_ok.1 h
      obtain ⟨index, hindex, h⟩ := Node.required_bind_eq_ok.1 h
      cases h
      exact .cell ⟨body, hentry, hnode⟩ harray hindex
    · cases h
  · intro h
    rw [expression]
    cases h with
    | reference hentry hname =>
        refine except_bind_eq_ok.2 ⟨_, hentry, ?_⟩
        exact except_bind_eq_ok.2 ⟨_, hname, rfl⟩
    | literal hnode htext hname htype hvalue =>
        refine hnode.bind_eq_ok (fun _ => rfl) ?_
        refine Node.required_bind_eq_ok.2 ⟨_, htext, ?_⟩
        refine except_bind_eq_ok.2 ⟨_, Node.optionalString_eq_ok_iff.2 hname, ?_⟩
        refine except_bind_eq_ok.2 ⟨_, htype, ?_⟩
        exact except_bind_eq_ok.2 ⟨_, mapError_eq_ok.2 hvalue, rfl⟩
    | binary hnode hoperator hleft hright =>
        refine hnode.bind_eq_ok (fun _ => rfl) ?_
        refine except_bind_eq_ok.2 ⟨_, hoperator, ?_⟩
        refine Node.required_bind_eq_ok.2 ⟨_, hleft, ?_⟩
        exact Node.required_bind_eq_ok.2 ⟨_, hright, rfl⟩
    | unary hnode hoperator hoperand =>
        refine hnode.bind_eq_ok (fun _ => rfl) ?_
        refine except_bind_eq_ok.2 ⟨_, hoperator, ?_⟩
        exact Node.required_bind_eq_ok.2 ⟨_, hoperand, rfl⟩
    | call hnode harguments hlibrary hfunction =>
        refine hnode.bind_eq_ok (fun _ => rfl) ?_
        refine Node.list_bind_eq_ok.2 ⟨_, harguments, ?_⟩
        refine Node.string_bind_eq_ok.2 ⟨_, hlibrary, ?_⟩
        exact Node.string_bind_eq_ok.2 ⟨_, hfunction, rfl⟩
    | cell hnode harray hindex =>
        refine hnode.bind_eq_ok (fun _ => rfl) ?_
        refine Node.required_bind_eq_ok.2 ⟨_, harray, ?_⟩
        exact Node.required_bind_eq_ok.2 ⟨_, hindex, rfl⟩

/-! ## Parts of statements -/

/-- What is played is named, or a ramp with a slope. -/
theorem pulse_eq_ok_iff {height : Nat} {node : Node} {p : Pulse} :
    pulse height node = .ok p
      ↔ (∃ operation, node.Reads "namedPulse" (nameIn "namedPulse") operation
          ∧ node.optional "rampPulse" = none ∧ p = .named operation)
        ∨ ∃ raw ramp slope, node.optional "namedPulse" = none
          ∧ node.optional "rampPulse" = some raw ∧ Node.of "rampPulse" raw ["value"] = .ok ramp
          ∧ ramp.Reads "value" (expression height) slope ∧ p = .ramp slope := by
  unfold pulse
  cases hnamed : node.optional "namedPulse" with
  | none =>
      cases hramp : node.optional "rampPulse" with
      | none => simp [Node.Reads, hnamed]
      | some raw =>
          dsimp only
          constructor
          · intro h
            obtain ⟨ramp, hnode, h⟩ := except_bind_eq_ok.1 h
            obtain ⟨slope, hslope, h⟩ := Node.required_bind_eq_ok.1 h
            cases h
            exact Or.inr ⟨raw, ramp, slope, rfl, rfl, hnode, hslope, rfl⟩
          · rintro (⟨operation, ⟨named, hsome, -⟩, -, -⟩ |
              ⟨raw', ramp, slope, -, hraw, hnode, hslope, rfl⟩)
            · rw [hnamed] at hsome
              cases hsome
            · cases hraw
              refine except_bind_eq_ok.2 ⟨ramp, hnode, ?_⟩
              exact Node.required_bind_eq_ok.2 ⟨slope, hslope, rfl⟩
  | some named =>
      cases hramp : node.optional "rampPulse" with
      | some raw => simp
      | none =>
          dsimp only
          constructor
          · intro h
            obtain ⟨operation, hoperation, h⟩ := except_bind_eq_ok.1 h
            cases h
            exact Or.inl ⟨operation, ⟨named, hnamed, hoperation⟩, rfl, rfl⟩
          · rintro (⟨operation, ⟨named', hsome, hoperation⟩, -, rfl⟩ | ⟨raw, ramp, slope, hnone, -⟩)
            · rw [hnamed] at hsome
              cases hsome
              exact except_bind_eq_ok.2 ⟨operation, hoperation, rfl⟩
            · cases hnone

theorem amplitude_eq_ok_iff {height : Nat} {raw : Json} {e : Expression} :
    amplitude height raw = .ok e
      ↔ ∃ node, Node.of "amp" raw ["v0"] = .ok node ∧ node.Reads "v0" (expression height) e := by
  rw [amplitude, except_bind_eq_ok]
  refine exists_congr fun node => and_congr_right fun _ => ?_
  rw [except_bind_eq_ok]
  exact exists_congr fun value => and_congr_left fun _ => Node.required_eq_ok_iff

/-- Only references and cells are read as targets. -/
theorem target_eq_ok_iff {e : Expression} {t : Target} : target e = .ok t ↔ e = t.expression := by
  constructor
  · intro h
    cases e <;> cases h <;> rfl
  · rintro rfl
    cases t <;> rfl

theorem block_iff {height : Nat} {raw : Json} {body : List Statement} :
    block (height + 1) raw = .ok body
      ↔ ∃ node, Node.of "block" raw ["statements"] = .ok node
        ∧ node.ReadsList "statements" (statement height) body := by
  rw [block, except_bind_eq_ok]
  refine exists_congr fun node => and_congr_right fun _ => ?_
  rw [except_bind_eq_ok]
  exact exists_congr fun items => and_congr_right fun _ => mapM_eq_ok_iff_forall₂

theorem guarded_iff {height : Nat} {kind guard : String} {raw : Json}
    {branch : Expression × List Statement} :
    guarded (height + 1) kind guard raw = .ok branch
      ↔ ∃ node, Node.of kind raw [guard, "body"] = .ok node
        ∧ node.Reads guard (expression height) branch.1
        ∧ node.Reads "body" (block height) branch.2 := by
  rw [guarded, except_bind_eq_ok]
  refine exists_congr fun node => and_congr_right fun _ => ?_
  constructor
  · intro h
    obtain ⟨condition, hcondition, h⟩ := Node.required_bind_eq_ok.1 h
    obtain ⟨body, hbody, h⟩ := Node.required_bind_eq_ok.1 h
    cases h
    exact ⟨hcondition, hbody⟩
  · rintro ⟨hcondition, hbody⟩
    refine Node.required_bind_eq_ok.2 ⟨_, hcondition, ?_⟩
    exact Node.required_bind_eq_ok.2 ⟨_, hbody, rfl⟩

/-! ## Statements -/

/-- The trees of statements, one rule for each kind. -/
inductive StatementTree (height : Nat) (raw : Json) : Statement → Prop where
  | play {node : Node} {p : Pulse} {name : String} {a d : Option Expression}
    (hnode : IsEntry "statement" "play" ["qe", "namedPulse", "rampPulse", "amp", "duration"] raw
      node)
    (hpulse : pulse height node = .ok p)
    (hamplitude : node.ReadsOptional "amp" (amplitude height) a)
    (hduration : node.ReadsOptional "duration" (expression height) d)
    (helement : node.Reads "qe" (nameIn "qe") name) : StatementTree height raw (.play p name a d)
  | measure {node : Node} {name : String} {operation stream label : Option String}
    {processes : List Json}
    (hnode : IsEntry "statement" "measure"
      ["qe", "pulse", "measureProcesses", "streamAs", "timestampLabel"] raw node)
    (hprocesses : node.list "measureProcesses" = .ok processes)
    (hstream : node.optional "streamAs" = stream.map Json.text)
    (hlabel : node.optional "timestampLabel" = label.map Json.text)
    (hoperation : node.ReadsOptional "pulse" (nameIn "pulse") operation)
    (helement : node.Reads "qe" (nameIn "qe") name) :
    StatementTree height raw (.measure name operation)
  | align {node : Node} {names : List String}
    (hnode : IsEntry "statement" "align" ["qe"] raw node) (helements : elements node = .ok names) :
    StatementTree height raw (.align names)
  | assign {node : Node} {t : Target} {value : Expression}
    (hnode : IsEntry "statement" "assign" ["target", "expression"] raw node)
    (htarget : node.Reads "target" (expression height) t.expression)
    (hvalue : node.Reads "expression" (expression height) value) :
    StatementTree height raw (.assign t value)
  | branch {node : Node} {condition : Expression} {body : List Statement}
    {elseIfs : List (Expression × List Statement)} {elseBody : Option (List Statement)}
    (hnode : IsEntry "statement" "if" ["condition", "body", "elseifs", "else", "unsafe"] raw node)
    (hcondition : node.Reads "condition" (expression height) condition)
    (hbody : node.Reads "body" (block height) body)
    (helseIfs : node.ReadsList "elseifs" (guarded height "elseif" "condition") elseIfs)
    (helseBody : node.ReadsOptional "else" (block height) elseBody) :
    StatementTree height raw (.branch condition body elseIfs elseBody)
  | resetPhase {node : Node} {names : List String}
    (hnode : IsEntry "statement" "resetPhase" ["qe"] raw node)
    (helements : elements node = .ok names) : StatementTree height raw (.resetPhase names)
  | rampToZero {node : Node} {name : String} {d : Option Expression}
    (hnode : IsEntry "statement" "rampToZero" ["qe", "duration"] raw node)
    (hduration : node.ReadsOptional "duration" (expression height) d)
    (helement : node.Reads "qe" (nameIn "qe") name) : StatementTree height raw (.rampToZero name d)
  | wait {node : Node} {d : Expression} {names : List String}
    (hnode : IsEntry "statement" "wait" ["time", "qe"] raw node)
    (hduration : node.Reads "time" (expression height) d) (helements : elements node = .ok names) :
    StatementTree height raw (.wait d names)
  | frameRotation {node : Node} {angle : Expression} {names : List String}
    (hnode : IsEntry "statement" "zRotation" ["value", "qe"] raw node)
    (hangle : node.Reads "value" (expression height) angle)
    (helements : elements node = .ok names) : StatementTree height raw (.frameRotation angle names)
  | loop {node : Node} {condition : Expression} {init update : Option (List Statement)}
    {body : List Statement}
    (hnode : IsEntry "statement" "for" ["init", "condition", "update", "body"] raw node)
    (hinit : node.ReadsOptional "init" (block height) init)
    (hupdate : node.ReadsOptional "update" (block height) update)
    (hcondition : node.Reads "condition" (expression height) condition)
    (hbody : node.Reads "body" (block height) body) :
    StatementTree height raw (.loop (init.getD []) condition (update.getD []) body)
  | switch {node : Node} {subject : Expression} {cases : List (Expression × List Statement)}
    {default : Option (List Statement)}
    (hnode : IsEntry "statement" "switch" ["expression", "cases", "default", "unsafe"] raw node)
    (hsubject : node.Reads "expression" (expression height) subject)
    (hcases : node.ReadsList "cases" (guarded height "case" "value") cases)
    (hdefault : node.ReadsOptional "default" (block height) default) :
    StatementTree height raw (.switch subject cases default)
  | strictTiming {node : Node} {body : List Statement}
    (hnode : IsEntry "statement" "strictTiming" ["body"] raw node)
    (hbody : node.Reads "body" (block height) body) : StatementTree height raw (.strictTiming body)
  | save {node : Node} {value : Expression} {stream : String}
    (hnode : IsEntry "statement" "save" ["source", "tag"] raw node)
    (hvalue : node.Reads "source" (expression height) value)
    (hstream : node.optional "tag" = some (.text stream)) :
    StatementTree height raw (.save value stream)

/-- The rule by which a statement is accepted. -/
theorem statementTree_of_ok {height : Nat} {raw : Json} {st : Statement}
    (h : statement (height + 1) raw = .ok st) : StatementTree height raw st := by
  rw [statement] at h
  obtain ⟨⟨kind, body⟩, hentry, h⟩ := except_bind_eq_ok.1 h
  dsimp only at h
  split at h
  · -- play
    obtain ⟨node, hnode, h⟩ := except_bind_eq_ok.1 h
    obtain ⟨p, hpulse, h⟩ := except_bind_eq_ok.1 h
    obtain ⟨a, hamplitude, h⟩ := Node.optional_bind_eq_ok.1 h
    obtain ⟨d, hduration, h⟩ := Node.optional_bind_eq_ok.1 h
    obtain ⟨name, helement, h⟩ := except_bind_eq_ok.1 h
    cases h
    exact .play ⟨body, hentry, hnode⟩ hpulse hamplitude hduration (element_eq_ok_iff.1 helement)
  · -- measure
    obtain ⟨node, hnode, h⟩ := except_bind_eq_ok.1 h
    obtain ⟨processes, hprocesses, h⟩ := except_bind_eq_ok.1 h
    obtain ⟨stream, hstream, h⟩ := except_bind_eq_ok.1 h
    obtain ⟨label, hlabel, h⟩ := except_bind_eq_ok.1 h
    obtain ⟨operation, hoperation, h⟩ := Node.optional_bind_eq_ok.1 h
    obtain ⟨name, helement, h⟩ := except_bind_eq_ok.1 h
    cases h
    exact .measure ⟨body, hentry, hnode⟩ hprocesses (Node.optionalString_eq_ok_iff.1 hstream)
      (Node.optionalString_eq_ok_iff.1 hlabel) hoperation (element_eq_ok_iff.1 helement)
  · -- align
    obtain ⟨node, hnode, h⟩ := except_bind_eq_ok.1 h
    obtain ⟨names, helements, h⟩ := except_bind_eq_ok.1 h
    cases h
    exact .align ⟨body, hentry, hnode⟩ helements
  · -- assign
    obtain ⟨node, hnode, h⟩ := except_bind_eq_ok.1 h
    obtain ⟨e, htarget, h⟩ := Node.required_bind_eq_ok.1 h
    obtain ⟨t, ht, h⟩ := except_bind_eq_ok.1 h
    obtain ⟨value, hvalue, h⟩ := Node.required_bind_eq_ok.1 h
    cases h
    rw [target_eq_ok_iff.1 ht] at htarget
    exact .assign ⟨body, hentry, hnode⟩ htarget hvalue
  · -- branch
    obtain ⟨node, hnode, h⟩ := except_bind_eq_ok.1 h
    obtain ⟨condition, hcondition, h⟩ := Node.required_bind_eq_ok.1 h
    obtain ⟨inside, hinside, h⟩ := Node.required_bind_eq_ok.1 h
    obtain ⟨elseIfs, helseIfs, h⟩ := Node.list_bind_eq_ok.1 h
    obtain ⟨elseBody, helseBody, h⟩ := Node.optional_bind_eq_ok.1 h
    cases h
    exact .branch ⟨body, hentry, hnode⟩ hcondition hinside helseIfs helseBody
  · -- resetPhase
    obtain ⟨node, hnode, h⟩ := except_bind_eq_ok.1 h
    obtain ⟨names, helements, h⟩ := except_bind_eq_ok.1 h
    cases h
    exact .resetPhase ⟨body, hentry, hnode⟩ helements
  · -- rampToZero
    obtain ⟨node, hnode, h⟩ := except_bind_eq_ok.1 h
    obtain ⟨d, hduration, h⟩ := Node.optional_bind_eq_ok.1 h
    obtain ⟨name, helement, h⟩ := except_bind_eq_ok.1 h
    cases h
    exact .rampToZero ⟨body, hentry, hnode⟩ hduration (element_eq_ok_iff.1 helement)
  · -- wait
    obtain ⟨node, hnode, h⟩ := except_bind_eq_ok.1 h
    obtain ⟨d, hduration, h⟩ := Node.required_bind_eq_ok.1 h
    obtain ⟨names, helements, h⟩ := except_bind_eq_ok.1 h
    cases h
    exact .wait ⟨body, hentry, hnode⟩ hduration helements
  · -- frameRotation
    obtain ⟨node, hnode, h⟩ := except_bind_eq_ok.1 h
    obtain ⟨angle, hangle, h⟩ := Node.required_bind_eq_ok.1 h
    obtain ⟨names, helements, h⟩ := except_bind_eq_ok.1 h
    cases h
    exact .frameRotation ⟨body, hentry, hnode⟩ hangle helements
  · -- loop
    obtain ⟨node, hnode, h⟩ := except_bind_eq_ok.1 h
    obtain ⟨init, hinit, h⟩ := Node.optional_bind_eq_ok.1 h
    obtain ⟨update, hupdate, h⟩ := Node.optional_bind_eq_ok.1 h
    obtain ⟨condition, hcondition, h⟩ := Node.required_bind_eq_ok.1 h
    obtain ⟨inside, hinside, h⟩ := Node.required_bind_eq_ok.1 h
    cases h
    exact .loop ⟨body, hentry, hnode⟩ hinit hupdate hcondition hinside
  · -- switch
    obtain ⟨node, hnode, h⟩ := except_bind_eq_ok.1 h
    obtain ⟨subject, hsubject, h⟩ := Node.required_bind_eq_ok.1 h
    obtain ⟨branches, hbranches, h⟩ := Node.list_bind_eq_ok.1 h
    obtain ⟨default, hdefault, h⟩ := Node.optional_bind_eq_ok.1 h
    cases h
    exact .switch ⟨body, hentry, hnode⟩ hsubject hbranches hdefault
  · -- strictTiming
    obtain ⟨node, hnode, h⟩ := except_bind_eq_ok.1 h
    obtain ⟨inside, hinside, h⟩ := Node.required_bind_eq_ok.1 h
    cases h
    exact .strictTiming ⟨body, hentry, hnode⟩ hinside
  · -- save
    obtain ⟨node, hnode, h⟩ := except_bind_eq_ok.1 h
    obtain ⟨value, hvalue, h⟩ := Node.required_bind_eq_ok.1 h
    obtain ⟨stream, hstream, h⟩ := Node.string_bind_eq_ok.1 h
    cases h
    exact .save ⟨body, hentry, hnode⟩ hvalue hstream
  · cases h

theorem statement_of_statementTree {height : Nat} {raw : Json} {st : Statement}
    (h : StatementTree height raw st) : statement (height + 1) raw = .ok st := by
  rw [statement]
  cases h with
  | play hnode hpulse hamplitude hduration helement =>
      refine hnode.bind_eq_ok (fun _ => rfl) ?_
      refine except_bind_eq_ok.2 ⟨_, hpulse, ?_⟩
      refine Node.optional_bind_eq_ok.2 ⟨_, hamplitude, ?_⟩
      refine Node.optional_bind_eq_ok.2 ⟨_, hduration, ?_⟩
      exact except_bind_eq_ok.2 ⟨_, element_eq_ok_iff.2 helement, rfl⟩
  | measure hnode hprocesses hstream hlabel hoperation helement =>
      refine hnode.bind_eq_ok (fun _ => rfl) ?_
      refine except_bind_eq_ok.2 ⟨_, hprocesses, ?_⟩
      refine except_bind_eq_ok.2 ⟨_, Node.optionalString_eq_ok_iff.2 hstream, ?_⟩
      refine except_bind_eq_ok.2 ⟨_, Node.optionalString_eq_ok_iff.2 hlabel, ?_⟩
      refine Node.optional_bind_eq_ok.2 ⟨_, hoperation, ?_⟩
      exact except_bind_eq_ok.2 ⟨_, element_eq_ok_iff.2 helement, rfl⟩
  | align hnode helements =>
      refine hnode.bind_eq_ok (fun _ => rfl) ?_
      exact except_bind_eq_ok.2 ⟨_, helements, rfl⟩
  | assign hnode htarget hvalue =>
      refine hnode.bind_eq_ok (fun _ => rfl) ?_
      refine Node.required_bind_eq_ok.2 ⟨_, htarget, ?_⟩
      refine except_bind_eq_ok.2 ⟨_, target_eq_ok_iff.2 rfl, ?_⟩
      exact Node.required_bind_eq_ok.2 ⟨_, hvalue, rfl⟩
  | branch hnode hcondition hbody helseIfs helseBody =>
      refine hnode.bind_eq_ok (fun _ => rfl) ?_
      refine Node.required_bind_eq_ok.2 ⟨_, hcondition, ?_⟩
      refine Node.required_bind_eq_ok.2 ⟨_, hbody, ?_⟩
      refine Node.list_bind_eq_ok.2 ⟨_, helseIfs, ?_⟩
      exact Node.optional_bind_eq_ok.2 ⟨_, helseBody, rfl⟩
  | resetPhase hnode helements =>
      refine hnode.bind_eq_ok (fun _ => rfl) ?_
      exact except_bind_eq_ok.2 ⟨_, helements, rfl⟩
  | rampToZero hnode hduration helement =>
      refine hnode.bind_eq_ok (fun _ => rfl) ?_
      refine Node.optional_bind_eq_ok.2 ⟨_, hduration, ?_⟩
      exact except_bind_eq_ok.2 ⟨_, element_eq_ok_iff.2 helement, rfl⟩
  | wait hnode hduration helements =>
      refine hnode.bind_eq_ok (fun _ => rfl) ?_
      refine Node.required_bind_eq_ok.2 ⟨_, hduration, ?_⟩
      exact except_bind_eq_ok.2 ⟨_, helements, rfl⟩
  | frameRotation hnode hangle helements =>
      refine hnode.bind_eq_ok (fun _ => rfl) ?_
      refine Node.required_bind_eq_ok.2 ⟨_, hangle, ?_⟩
      exact except_bind_eq_ok.2 ⟨_, helements, rfl⟩
  | loop hnode hinit hupdate hcondition hbody =>
      refine hnode.bind_eq_ok (fun _ => rfl) ?_
      refine Node.optional_bind_eq_ok.2 ⟨_, hinit, ?_⟩
      refine Node.optional_bind_eq_ok.2 ⟨_, hupdate, ?_⟩
      refine Node.required_bind_eq_ok.2 ⟨_, hcondition, ?_⟩
      exact Node.required_bind_eq_ok.2 ⟨_, hbody, rfl⟩
  | switch hnode hsubject hcases hdefault =>
      refine hnode.bind_eq_ok (fun _ => rfl) ?_
      refine Node.required_bind_eq_ok.2 ⟨_, hsubject, ?_⟩
      refine Node.list_bind_eq_ok.2 ⟨_, hcases, ?_⟩
      exact Node.optional_bind_eq_ok.2 ⟨_, hdefault, rfl⟩
  | strictTiming hnode hbody =>
      refine hnode.bind_eq_ok (fun _ => rfl) ?_
      exact Node.required_bind_eq_ok.2 ⟨_, hbody, rfl⟩
  | save hnode hvalue hstream =>
      refine hnode.bind_eq_ok (fun _ => rfl) ?_
      refine Node.required_bind_eq_ok.2 ⟨_, hvalue, ?_⟩
      exact Node.string_bind_eq_ok.2 ⟨_, hstream, rfl⟩

theorem statement_iff {height : Nat} {raw : Json} {st : Statement} :
    statement (height + 1) raw = .ok st ↔ StatementTree height raw st :=
  ⟨statementTree_of_ok, statement_of_statementTree⟩

end RawTree

end PulseTimeline
