import PulseTimeline.Proofs.RawTree.Declarations
import PulseTimeline.Proofs.RawTree.Records
import PulseTimeline.Proofs.Value.Text

set_option autoImplicit false

/-! # Reading what was spelled

Every program is read back from its tree. The induction is on the height that bounds the reading,
over statements, blocks and guarded blocks at once: the trees in the fields of a node are lower than
the node. -/

namespace PulseTimeline

namespace RawTree

/-! ## Expressions -/

theorem binaryOperator_written {kind : String} {fields : List (String × Option Json)}
    {operator : BinaryOperator} (hnodup : (fields.map Prod.fst).Nodup)
    (h : fields.lookup "op" = some (some (.text operator.names.mnemonic))) :
    binaryOperator (Node.written kind fields) = .ok operator := by
  refine Node.string_bind_eq_ok.2 ⟨_, Node.optional_written hnodup h nofun, ?_⟩
  cases operator <;> rfl

theorem unaryOperator_written {kind : String} {fields : List (String × Option Json)}
    {operator : UnaryOperator} (hnodup : (fields.map Prod.fst).Nodup)
    (h : fields.lookup "op" = some (some (.text operator.names.mnemonic))) :
    unaryOperator (Node.written kind fields) = .ok operator := by
  refine Node.string_bind_eq_ok.2 ⟨_, Node.optional_written hnodup h nofun, ?_⟩
  cases operator <;> rfl

theorem scalarType_text (type : ScalarType) : scalarType type.text = .ok type := by
  cases type <;> rfl

theorem expression_toTree {height : Nat} {e : Expression} (hheight : e.toTree.height ≤ height)
    (hliterals : e.HasReadableLiterals) : expression height e.toTree = .ok e := by
  induction height generalizing e with
  | zero => cases e <;> exact absurd hheight (Nat.not_succ_le_zero _)
  | succ height ih =>
      rw [expression_iff]
      have hread : ∀ operand ∈ e.operands, operand.toTree.height < height →
          expression height operand.toTree = .ok operand :=
        fun operand hmem hlower => ih (Nat.le_of_lt hlower) (hliterals.inside operand hmem)
      cases e with
      | reference name =>
          exact .reference (singleEntry_eq_ok_iff.2 ⟨_, rfl, rfl⟩) (nameIn_named _ _)
      | literal text type =>
          obtain ⟨value, hvalue⟩ := hliterals.here text type rfl
          have htype : (type.map ScalarType.text).mapM scalarType = .ok type := by
            cases type with
            | none => rfl
            | some type => exact except_bind_eq_ok.2 ⟨_, scalarType_text type, rfl⟩
          refine .literal (Node.isEntry_entry (by decide) (by simp)) ?_ ?_ htype hvalue
          · exact Node.reads_written (by simp) rfl nofun rfl
          · rw [Option.map_map]
            refine Node.optional_written (by simp) rfl ?_
            cases type <;> exact nofun
      | binary left operator right =>
          refine .binary (Node.isEntry_entry (by decide) (by simp)) ?_ ?_ ?_
          · exact binaryOperator_written (by simp) rfl
          · refine Node.reads_inside (by simp) rfl left.toTree_ne_null hheight ?_
            exact hread left (by simp [Expression.operands])
          · refine Node.reads_inside (by simp) rfl right.toTree_ne_null hheight ?_
            exact hread right (by simp [Expression.operands])
      | unary operator operand =>
          refine .unary (Node.isEntry_entry (by decide) (by simp)) ?_ ?_
          · exact unaryOperator_written (by simp) rfl
          · refine Node.reads_inside (by simp) rfl operand.toTree_ne_null hheight ?_
            exact hread operand (by simp [Expression.operands])
      | call library function arguments =>
          rw [Expression.toTree, Expression.toTrees_eq_map] at hheight ⊢
          refine .call (Node.isEntry_entry (by decide) (by simp)) ?_ ?_ ?_
          · exact Node.readsList_inside (by simp) rfl hheight hread
          · exact Node.optional_written (by simp) rfl (by simp)
          · exact Node.optional_written (by simp) rfl (by simp)
      | cell array index =>
          refine .cell (Node.isEntry_entry (by decide) (by simp)) ?_ ?_
          · exact Node.reads_written (by simp) rfl (by simp [Json.named, Json.record]) (nameIn_named _ _)
          · refine Node.reads_inside (by simp) rfl index.toTree_ne_null hheight ?_
            exact hread index (by simp [Expression.operands])

/-! ## Statements -/

theorem amplitude_toAmplitude {height : Nat} {factor : Expression}
    (hheight : factor.toAmplitude.height ≤ height) (hliterals : factor.HasReadableLiterals) :
    amplitude height factor.toAmplitude = .ok factor := by
  have hlower : factor.toTree.height < factor.toAmplitude.height :=
    Json.height_lt_record "v0" rfl
  refine amplitude_eq_ok_iff.2 ⟨_, Node.of_record (by simp), ?_⟩
  refine Node.reads_written (by simp) rfl factor.toTree_ne_null ?_
  exact expression_toTree (by omega) hliterals

theorem pulse_written {kind : String} {fields : List (String × Option Json)} {height : Nat}
    {p : Pulse} (hnodup : (fields.map Prod.fst).Nodup)
    (hname : fields.lookup "namedPulse" = some p.nameTree?)
    (hramp : fields.lookup "rampPulse" = some p.rampTree?)
    (hheight : (Json.entry kind fields).height ≤ height + 1)
    (hliterals : ∀ e ∈ p.expressions, e.HasReadableLiterals) :
    pulse height (Node.written kind fields) = .ok p := by
  rw [pulse_eq_ok_iff]
  cases p with
  | named operation =>
      refine Or.inl ⟨operation, ?_, Node.optional_written hnodup hramp nofun, rfl⟩
      exact Node.reads_written hnodup hname nofun (nameIn_named _ _)
  | ramp slope =>
      refine Or.inr ⟨.record [("value", some slope.toTree)], _, slope, ?_, ?_,
        Node.of_record (by simp), ?_, rfl⟩
      · exact Node.optional_written hnodup hname nofun
      · exact Node.optional_written hnodup hramp nofun
      · have hentry : (Json.record [("value", some slope.toTree)]).height + 1
            < (Json.entry kind fields).height := Json.height_lt_entry hramp
        have hrecord : slope.toTree.height < (Json.record [("value", some slope.toTree)]).height :=
          Json.height_lt_record "value" rfl
        refine Node.reads_written (by simp) rfl slope.toTree_ne_null ?_
        exact expression_toTree (by omega) (hliterals slope (List.mem_singleton.2 rfl))

/-- A target is read as an expression with nothing but the target's own inside. -/
theorem hasReadableLiterals_target {t : Target}
    (h : ∀ e ∈ t.expressions, e.HasReadableLiterals) : t.expression.HasReadableLiterals := by
  cases t with
  | reference name => exact .intro nofun nofun
  | cell array index => exact .intro nofun h

/-- What holds at a height if whatever is spelled in trees of this height is read back. -/
structure ReadsBack (alone : Statement → Bool) (height : Nat) : Prop where
  statement : ∀ st : Statement, (st.toTree alone).height ≤ height → st.HasReadableLiterals →
    statement height (st.toTree alone) = .ok st
  block : ∀ body : List Statement, (Statement.blockTree alone body).height ≤ height →
    (∀ st ∈ body, st.HasReadableLiterals) →
    block height (Statement.blockTree alone body) = .ok body
  guarded : ∀ (kind guard : String) (branch : Expression × List Statement), guard ≠ "body" →
    (Statement.guardedTree alone guard branch).height ≤ height → branch.1.HasReadableLiterals →
    (∀ st ∈ branch.2, st.HasReadableLiterals) →
    guarded height kind guard (Statement.guardedTree alone guard branch) = .ok branch

variable {alone : Statement → Bool} {height : Nat}

theorem ReadsBack.block_succ (ih : ReadsBack alone height) (body : List Statement)
    (hheight : (Statement.blockTree alone body).height ≤ height + 1)
    (hliterals : ∀ st ∈ body, st.HasReadableLiterals) :
    RawTree.block (height + 1) (Statement.blockTree alone body) = .ok body := by
  rw [Statement.blockTree, Statement.toTrees_eq_map] at hheight ⊢
  refine block_iff.2 ⟨_, Node.of_record (by simp), ?_⟩
  refine Node.readsList_written (by simp) rfl fun st hmem => ih.statement st ?_ (hliterals st hmem)
  have hitem : (st.toTree alone).height < (Json.array (body.map (Statement.toTree alone))).height :=
    Json.height_lt_of_mem_items (List.mem_map_of_mem hmem)
  have hlower : (Json.array (body.map (Statement.toTree alone))).height
      < (Json.block (body.map (Statement.toTree alone))).height :=
    Json.height_lt_record "statements" rfl
  omega

theorem ReadsBack.guarded_succ (ih : ReadsBack alone height) (kind guard : String)
    (branch : Expression × List Statement) (hguard : guard ≠ "body")
    (hheight : (Statement.guardedTree alone guard branch).height ≤ height + 1)
    (hcondition : branch.1.HasReadableLiterals)
    (hbody : ∀ st ∈ branch.2, st.HasReadableLiterals) :
    RawTree.guarded (height + 1) kind guard (Statement.guardedTree alone guard branch)
      = .ok branch := by
  have hfields : List.lookup guard [("body", some (Statement.blockTree alone branch.2)),
      (guard, some branch.1.toTree)] = some (some branch.1.toTree) := by
    simp [List.lookup_cons, beq_eq_false_iff_ne.2 hguard]
  have hlower : branch.1.toTree.height < (Statement.guardedTree alone guard branch).height :=
    Json.height_lt_record guard hfields
  have hlowerBody : (Statement.blockTree alone branch.2).height
      < (Statement.guardedTree alone guard branch).height := Json.height_lt_record "body" rfl
  refine guarded_iff.2 ⟨_, Node.of_record (by simp), ?_, ?_⟩
  · refine Node.reads_written (by simp [hguard.symm]) hfields branch.1.toTree_ne_null ?_
    exact expression_toTree (by omega) hcondition
  · refine Node.reads_written (by simp [hguard.symm]) rfl nofun ?_
    exact ih.block branch.2 (by omega) hbody

theorem ReadsBack.statement_succ (ih : ReadsBack alone height) (st : Statement)
    (hheight : (st.toTree alone).height ≤ height + 1) (hliterals : st.HasReadableLiterals) :
    RawTree.statement (height + 1) (st.toTree alone) = .ok st := by
  rw [statement_iff]
  have hexpression : ∀ e ∈ st.expressions, e.toTree.height < height →
      expression height e.toTree = .ok e :=
    fun e hmem hlower => expression_toTree (Nat.le_of_lt hlower) (hliterals.here e hmem)
  have hblock : ∀ body ⊆ st.inner, (Statement.blockTree alone body).height < height →
      RawTree.block height (Statement.blockTree alone body) = .ok body :=
    fun body hsub hlower => ih.block body (Nat.le_of_lt hlower) fun st hmem =>
      hliterals.inside st (hsub hmem)
  have hguarded : ∀ kind guard branch, guard ≠ "body" → branch.1 ∈ st.expressions →
      branch.2 ⊆ st.inner → (Statement.guardedTree alone guard branch).height < height →
      RawTree.guarded height kind guard (Statement.guardedTree alone guard branch) = .ok branch :=
    fun kind guard branch hguard hmem hsub hlower =>
      ih.guarded kind guard branch hguard (Nat.le_of_lt hlower) (hliterals.here _ hmem)
        fun st hmem => hliterals.inside st (hsub hmem)
  cases st with
  | play p name a d =>
      refine .play (Node.isEntry_entry (by decide) (by simp)) ?_ ?_ ?_ ?_
      · refine pulse_written (by simp) rfl rfl hheight fun e hmem => hliterals.here e ?_
        simp [Statement.expressions, hmem]
      · refine Node.readsOptional_inside (by simp) rfl nofun hheight fun factor hmem hlower => ?_
        refine amplitude_toAmplitude (Nat.le_of_lt hlower) (hliterals.here factor ?_)
        simp [Statement.expressions, Option.mem_def.1 hmem]
      · refine Node.readsOptional_inside (by simp) rfl Expression.toTree_ne_null hheight ?_
        intro e hmem
        exact hexpression e (by simp [Statement.expressions, Option.mem_def.1 hmem])
      · exact Node.reads_written (by simp) rfl nofun (nameIn_named _ _)
  | measure name operation =>
      -- the processing of results is no part of a program, so none is spelled
      refine @StatementTree.measure _ _ _ name operation none none []
        (Node.isEntry_entry (by decide) (by simp)) ?_ ?_ ?_ ?_ ?_
      · exact Node.list_eq_ok_iff.2 (Or.inl ⟨Node.optional_written_of_not_mem (by simp), rfl⟩)
      · exact Node.optional_written_of_not_mem (by simp)
      · exact Node.optional_written_of_not_mem (by simp)
      · exact Node.readsOptional_written (by simp) rfl nofun fun name _ => nameIn_named _ _
      · exact Node.reads_written (by simp) rfl nofun (nameIn_named _ _)
  | align names =>
      exact .align (Node.isEntry_entry (by decide) (by simp)) (elements_written (by simp) rfl)
  | assign t value =>
      refine .assign (Node.isEntry_entry (by decide) (by simp)) ?_ ?_
      · refine Node.reads_inside (by simp) rfl t.expression.toTree_ne_null hheight fun hlower => ?_
        refine expression_toTree (Nat.le_of_lt hlower) (hasReadableLiterals_target fun e hmem => ?_)
        exact hliterals.here e (by simp [Statement.expressions, hmem])
      · refine Node.reads_inside (by simp) rfl value.toTree_ne_null hheight ?_
        exact hexpression value (by simp [Statement.expressions])
  | branch condition body elseIfs elseBody =>
      rw [Statement.toTree, Statement.guardedTrees_eq_map,
        Statement.optionalTree_eq_map] at hheight ⊢
      refine .branch (Node.isEntry_entry (by decide) (by simp)) ?_ ?_ ?_ ?_
      · refine Node.reads_inside (by simp) rfl condition.toTree_ne_null hheight ?_
        exact hexpression condition (by simp [Statement.expressions])
      · refine Node.reads_inside (by simp) rfl nofun hheight ?_
        exact hblock body (by simp [Statement.inner])
      · refine Node.readsList_inside (by simp) rfl hheight fun branch hmem => ?_
        refine hguarded _ _ branch (by decide) ?_ ?_
        · exact List.mem_cons_of_mem _ (List.mem_map_of_mem hmem)
        · exact fun st hst => List.mem_append_left _
            (List.mem_append_right _ (Statement.subset_flatMap_snd hmem hst))
      · refine Node.readsOptional_inside (by simp) rfl nofun hheight fun body hmem => ?_
        refine hblock body fun st hst => List.mem_append_right _ ?_
        rwa [Option.mem_def.1 hmem]
  | resetPhase names =>
      exact .resetPhase (Node.isEntry_entry (by decide) (by simp)) (elements_written (by simp) rfl)
  | rampToZero name d =>
      refine .rampToZero (Node.isEntry_entry (by decide) (by simp)) ?_ ?_
      · refine Node.readsOptional_inside (by simp) rfl Expression.toTree_ne_null hheight ?_
        intro e hmem
        exact hexpression e (by simp [Statement.expressions, Option.mem_def.1 hmem])
      · exact Node.reads_written (by simp) rfl nofun (nameIn_named _ _)
  | wait d names =>
      refine .wait (Node.isEntry_entry (by decide) (by simp)) ?_ (elements_written (by simp) rfl)
      refine Node.reads_inside (by simp) rfl d.toTree_ne_null hheight ?_
      exact hexpression d (by simp [Statement.expressions])
  | frameRotation angle names =>
      refine .frameRotation (Node.isEntry_entry (by decide) (by simp)) ?_
        (elements_written (by simp) rfl)
      refine Node.reads_inside (by simp) rfl angle.toTree_ne_null hheight ?_
      exact hexpression angle (by simp [Statement.expressions])
  | loop init condition update body =>
      have h : StatementTree height (Statement.toTree alone (.loop init condition update body))
          (.loop ((some init).getD []) condition ((some update).getD []) body) := by
        refine .loop (Node.isEntry_entry (by decide) (by simp)) ?_ ?_ ?_ ?_
        · refine Node.Reads.optional (Node.reads_inside (by simp) rfl nofun hheight ?_)
          exact hblock init (by simp [Statement.inner])
        · refine Node.Reads.optional (Node.reads_inside (by simp) rfl nofun hheight ?_)
          exact hblock update (by simp [Statement.inner])
        · refine Node.reads_inside (by simp) rfl condition.toTree_ne_null hheight ?_
          exact hexpression condition (by simp [Statement.expressions])
        · refine Node.reads_inside (by simp) rfl nofun hheight ?_
          exact hblock body (by simp [Statement.inner])
      exact h
  | switch subject cases default =>
      rw [Statement.toTree, Statement.guardedTrees_eq_map,
        Statement.optionalTree_eq_map] at hheight ⊢
      refine .switch (Node.isEntry_entry (by decide) (by simp)) ?_ ?_ ?_
      · refine Node.reads_inside (by simp) rfl subject.toTree_ne_null hheight ?_
        exact hexpression subject (by simp [Statement.expressions])
      · refine Node.readsList_inside (by simp) rfl hheight fun branch hmem => ?_
        refine hguarded _ _ branch (by decide) ?_ ?_
        · exact List.mem_cons_of_mem _ (List.mem_map_of_mem hmem)
        · exact fun st hst => List.mem_append_left _ (Statement.subset_flatMap_snd hmem hst)
      · refine Node.readsOptional_inside (by simp) rfl nofun hheight fun body hmem => ?_
        refine hblock body fun st hst => List.mem_append_right _ ?_
        rwa [Option.mem_def.1 hmem]
  | strictTiming body =>
      refine .strictTiming (Node.isEntry_entry (by decide) (by simp)) ?_
      refine Node.reads_inside (by simp) rfl nofun hheight ?_
      exact hblock body (by simp [Statement.inner])
  | save value stream =>
      refine .save (Node.isEntry_entry (by decide) (by simp)) ?_ ?_
      · refine Node.reads_inside (by simp) rfl value.toTree_ne_null hheight ?_
        exact hexpression value (by simp [Statement.expressions])
      · exact Node.optional_written (by simp) rfl nofun

theorem readsBack (alone : Statement → Bool) (height : Nat) : ReadsBack alone height := by
  induction height with
  | zero =>
      refine ⟨fun st hheight => ?_, fun body hheight => ?_, fun kind guard branch _ hheight => ?_⟩
      · cases st <;> exact absurd hheight (Nat.not_succ_le_zero _)
      · exact absurd hheight (Nat.not_succ_le_zero _)
      · exact absurd hheight (Nat.not_succ_le_zero _)
  | succ height ih => exact ⟨ih.statement_succ, ih.block_succ, ih.guarded_succ⟩

/-! ## Declarations

Initial values are cast when a definition is made, and casting them once more changes nothing. -/

theorem type_of_made_scalar {name : String} {type : ScalarType} {v : Value}
    (h : (Definition.scalar name type v).Made) : v.type = type := by
  generalize hd : Definition.scalar name type v = d at h
  cases h with
  | scalar name' type' value =>
      cases hd
      cases value with
      | none => exact Value.type_zero type
      | some v => exact Value.type_cast v type
  | array name' type' values size => cases hd

theorem type_of_made_array {name : String} {type : ScalarType} {values : List Value} {size : Nat}
    (h : (Definition.array name type values size).Made) : ∀ v ∈ values, v.type = type := by
  generalize hd : Definition.array name type values size = d at h
  cases h with
  | scalar name' type' value => cases hd
  | array name' type' values size =>
      cases hd
      intro v hv
      obtain ⟨w, -, rfl⟩ := List.mem_map.1 hv
      exact Value.type_cast w type

theorem ofScalar_eq_scalar {name : String} {type : ScalarType} {v : Value} (h : v.type = type) :
    Definition.ofScalar name type (some v) = .scalar name type v := by
  subst h
  exact congrArg _ (Value.cast_type v)

theorem ofArray_eq_array {name : String} {type : ScalarType} {values : List Value} {size : Nat}
    (h : ∀ v ∈ values, v.type = type) :
    Definition.ofArray name type values size = .array name type values size := by
  have hcast : values.map (fun v => v.cast type) = values := by
    refine (List.map_congr_left fun v hv => ?_).trans (List.map_id values)
    rw [← h v hv, Value.cast_type, id]
  rw [Definition.ofArray, hcast]

theorem initialValue_valueTree {type : ScalarType} {v : Value} (htype : v.type = type)
    (hreal : ∀ x, v = .real x →
      Decimal.readFloat? (Decimal.valueLayout.text x).toList = some x) :
    initialValue type (Definition.valueTree v) = .ok v := by
  refine initialValue_object_eq_ok_iff.2 ⟨_, v.text, Node.of_record (by simp), ?_, ?_⟩
  · exact Node.reads_written (by simp) rfl nofun rfl
  · subst htype
    rw [Value.ofLiteral_text v _ hreal]
    exact congrArg Except.ok (Value.cast_type v)

theorem definition_toTree {d : Definition} (hmade : d.Made) (hsized : d.IsSized)
    (hreals : ∀ x, .real x ∈ d.values →
      Decimal.readFloat? (Decimal.valueLayout.text x).toList = some x) :
    definition d.toTree = .ok d := by
  rw [definition_iff]
  cases d with
  | scalar name type v =>
      have htype : v.type = type := type_of_made_scalar hmade
      have htree : DefinitionTree (Definition.toTree (.scalar name type v))
          (.ofScalar name type (some v)) := by
        refine .scalar ⟨Node.of_record (by simp), Node.optional_written (by simp) rfl nofun,
          ⟨type.text, Node.optional_written (by simp) rfl nofun, scalarType_text type⟩, ?_⟩ ?_
        · exact declaredSize_eq_ok_iff.2 (Or.inl ⟨Node.optional_written_of_not_mem (by simp), rfl⟩)
        · refine Node.readsList_written (by simp) rfl fun w hmem => ?_
          cases List.mem_singleton.1 hmem
          exact initialValue_valueTree htype fun x heq => hreals x (heq ▸ hmem)
      rwa [ofScalar_eq_scalar htype] at htree
  | array name type values size =>
      have htype : ∀ v ∈ values, v.type = type := type_of_made_array hmade
      obtain ⟨hne, hlimit, hlength⟩ := hsized
      have htree : DefinitionTree (Definition.toTree (.array name type values size))
          (.ofArray name type values size) := by
        refine .array ⟨Node.of_record (by simp), Node.optional_written (by simp) rfl nofun,
          ⟨type.text, Node.optional_written (by simp) rfl nofun, scalarType_text type⟩, ?_⟩ hne ?_
          hlength
        · refine declaredSize_eq_ok_iff.2 (Or.inr ⟨?_, hlimit⟩)
          exact Node.optional_written (by simp) rfl nofun
        · -- an empty list of initial values is left out
          cases values with
          | nil =>
              refine ⟨[], Node.list_eq_ok_iff.2 (Or.inl ⟨?_, rfl⟩), .nil⟩
              exact Node.optional_written (by simp) rfl nofun
          | cons v rest =>
              refine Node.readsList_written (by simp) rfl fun w hw => ?_
              exact initialValue_valueTree (htype w hw) fun x heq => hreals x (heq ▸ hw)
      rwa [ofArray_eq_array htype] at htree

end RawTree

/-! ## Programs -/

/-- **Every program is understood.** Whatever a program consists of, if its literals can be read and
    its variables have been declared with sizes that can be declared, then it is read back from its
    tree, however elements that may stand alone are written. That the texts of doubles among the
    initial values are read back as the same doubles is assumed. -/
theorem every_program_is_understood (alone : Statement → Bool) (program : Program)
    (hliterals : program.HasReadableLiterals) (hmade : ∀ d ∈ program.definitions, d.Made)
    (hsized : ∀ d ∈ program.definitions, d.IsSized)
    (hreals : ∀ d ∈ program.definitions, ∀ x, .real x ∈ d.values →
      Decimal.readFloat? (Decimal.valueLayout.text x).toList = some x) :
    Program.ofTree (program.toTree alone) = .ok program := by
  refine RawTree.ofTree_eq_ok_iff.2 ⟨_, RawTree.Node.of_record (by simp), ?_, ?_⟩
  · have hlower : (Statement.blockTree alone program.body).height < (program.toTree alone).height :=
      Json.height_lt_record "body" rfl
    refine RawTree.Node.reads_written (by simp) rfl nofun ?_
    exact (RawTree.readsBack alone _).block program.body (Nat.le_of_lt hlower) hliterals
  · refine RawTree.Node.readsList_written (by simp) rfl fun d hd => ?_
    exact RawTree.definition_toTree (hmade d hd) (hsized d hd) (hreals d hd)

/-- A ramp and a phase reset under strict timing, with a double and an array among the variables. -/
theorem understanding_of_ramp_under_strict_timing :
    let program : Program :=
      ⟨[.strictTiming [.play (.ramp (.literal "2" (some .real))) "q" none (some (.reference "n")),
          .resetPhase ["q"]]],
        [.scalar "x" .real (.real 0.5), .array "n" .int [.int 1, .int 2] 2]⟩
    program.HasReadableLiterals ∧ (∀ d ∈ program.definitions, d.Made)
      ∧ (∀ d ∈ program.definitions, d.IsSized)
      ∧ (∀ d ∈ program.definitions, ∀ x, .real x ∈ d.values →
        Decimal.readFloat? (Decimal.valueLayout.text x).toList = some x)
      ∧ Program.ofTree (program.toTree fun _ => true) = .ok program := by
  intro program
  have hslope : Expression.HasReadableLiterals (.literal "2" (some .real)) := by
    refine .intro (fun text type heq => ?_) nofun
    cases heq
    exact ⟨_, rfl⟩
  have hduration : Expression.HasReadableLiterals (.reference "n") := .intro nofun nofun
  have hliterals : program.HasReadableLiterals := by
    intro st hst
    cases List.mem_singleton.1 hst
    refine .intro nofun fun inner hinner => ?_
    rcases List.mem_pair.1 hinner with rfl | rfl
    · refine .intro (fun e he => ?_) nofun
      rcases List.mem_pair.1 he with rfl | rfl
      · exact hslope
      · exact hduration
    · exact .intro nofun nofun
  have hmade : ∀ d ∈ program.definitions, d.Made := by
    intro d hd
    rcases List.mem_pair.1 hd with rfl | rfl
    · exact .scalar "x" .real (some (.real 0.5))
    · exact .array "n" .int [.int 1, .int 2] 2
  have hsized : ∀ d ∈ program.definitions, d.IsSized := by
    intro d hd
    rcases List.mem_pair.1 hd with rfl | rfl
    · trivial
    · exact ⟨by decide, by decide, Or.inr rfl⟩
  have hreals : ∀ d ∈ program.definitions, ∀ x, .real x ∈ d.values →
      Decimal.readFloat? (Decimal.valueLayout.text x).toList = some x := by
    intro d hd x hx
    rcases List.mem_pair.1 hd with rfl | rfl
    · cases List.mem_singleton.1 hx
      decide +kernel
    · simp [Definition.values] at hx
  exact ⟨hliterals, hmade, hsized, hreals,
    every_program_is_understood (fun _ => true) program hliterals hmade hsized hreals⟩

end PulseTimeline
