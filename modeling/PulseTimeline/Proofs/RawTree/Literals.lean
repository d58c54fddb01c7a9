import PulseTimeline.Proofs.RawTree.Declarations

set_option autoImplicit false

/-! # Literals are read once and for all

A tree is refused if one of its literals cannot be read with the type that it names. The literals of
an accepted program, at whatever depth, can therefore all be read when they are evaluated. -/

namespace PulseTimeline.RawTree

/-! ## What has been read from fields -/

section

variable {α : Type} {node : Node} {field : String} {read : Json → Except TreeError α}

theorem Node.Reads.exists_read {value : α} (h : node.Reads field read value) :
    ∃ raw, read raw = .ok value := by
  obtain ⟨raw, -, hvalue⟩ := h
  exact ⟨raw, hvalue⟩

theorem Node.ReadsOptional.exists_read {value : Option α} (h : node.ReadsOptional field read value)
    {v : α} (hv : value = some v) : ∃ raw, read raw = .ok v := by
  rcases h with ⟨-, hnone⟩ | ⟨raw, w, -, hw, hsome⟩
  · rw [hnone] at hv
    cases hv
  · rw [hsome] at hv
    cases hv
    exact ⟨raw, hw⟩

theorem Node.ReadsList.exists_read {values : List α} (h : node.ReadsList field read values)
    {v : α} (hv : v ∈ values) : ∃ raw, read raw = .ok v := by
  obtain ⟨items, raw, -, -, hraw⟩ := h.exists_of_mem hv
  exact ⟨raw, hraw⟩

end

/-! ## Expressions -/

theorem hasReadableLiterals_of_expression {height : Nat} {raw : Json} {e : Expression}
    (h : expression height raw = .ok e) : e.HasReadableLiterals := by
  induction height generalizing raw e with
  | zero => cases h
  | succ height ih =>
      have hread : ∀ {e : Expression}, (∃ raw, expression height raw = .ok e) →
          e.HasReadableLiterals := fun ⟨_, he⟩ => ih he
      cases expression_iff.1 h with
      | reference hentry hname => exact .intro nofun nofun
      | literal hnode htext hname htype hvalue =>
          refine .intro (fun text type heq => ?_) nofun
          cases heq
          exact ⟨_, hvalue⟩
      | binary hnode hoperator hleft hright =>
          refine .intro nofun fun operand hmem => ?_
          rcases List.mem_pair.1 hmem with rfl | rfl
          · exact hread hleft.exists_read
          · exact hread hright.exists_read
      | unary hnode hoperator hoperand =>
          refine .intro nofun fun operand hmem => ?_
          cases List.mem_singleton.1 hmem
          exact hread hoperand.exists_read
      | call hnode harguments hlibrary hfunction =>
          exact .intro nofun fun operand hmem => hread (harguments.exists_read hmem)
      | cell hnode harray hindex =>
          refine .intro nofun fun operand hmem => ?_
          cases List.mem_singleton.1 hmem
          exact hread hindex.exists_read

/-! ## Statements -/

theorem hasReadableLiterals_of_pulse {height : Nat} {node : Node} {p : Pulse}
    (h : pulse height node = .ok p) : ∀ e ∈ p.expressions, e.HasReadableLiterals := by
  rcases pulse_eq_ok_iff.1 h with ⟨operation, -, -, rfl⟩ | ⟨raw, ramp, slope, -, -, -, hslope, rfl⟩
  · exact nofun
  · intro e he
    cases List.mem_singleton.1 he
    obtain ⟨raw, hraw⟩ := hslope.exists_read
    exact hasReadableLiterals_of_expression hraw

theorem hasReadableLiterals_of_amplitude {height : Nat} {raw : Json} {e : Expression}
    (h : amplitude height raw = .ok e) : e.HasReadableLiterals := by
  obtain ⟨node, -, hfactor⟩ := amplitude_eq_ok_iff.1 h
  obtain ⟨raw, hraw⟩ := hfactor.exists_read
  exact hasReadableLiterals_of_expression hraw

/-- The index of a target is an operand of the expression that the target was read from. -/
theorem hasReadableLiterals_of_target {t : Target} (h : t.expression.HasReadableLiterals) :
    ∀ e ∈ t.expressions, e.HasReadableLiterals := by
  cases t with
  | reference name => exact nofun
  | cell array index => exact h.inside

/-- What holds at a height if whatever is accepted at this height has readable literals. -/
structure ReadsLiterals (height : Nat) : Prop where
  statement : ∀ {raw st}, statement height raw = .ok st → st.HasReadableLiterals
  block : ∀ {raw body}, block height raw = .ok body → ∀ st ∈ body, st.HasReadableLiterals
  guarded : ∀ {kind guard raw branch}, guarded height kind guard raw = .ok branch →
    branch.1.HasReadableLiterals ∧ ∀ st ∈ branch.2, st.HasReadableLiterals

variable {height : Nat}

theorem ReadsLiterals.optional (ih : ReadsLiterals height) {node : Node} {field : String}
    {body : Option (List Statement)} (h : node.ReadsOptional field (RawTree.block height) body) :
    ∀ st ∈ body.getD [], st.HasReadableLiterals := by
  cases body with
  | none => exact nofun
  | some body =>
      obtain ⟨raw, hraw⟩ := h.exists_read rfl
      exact ih.block hraw

theorem ReadsLiterals.branches (ih : ReadsLiterals height) {node : Node} {field kind guard : String}
    {branches : List (Expression × List Statement)}
    (h : node.ReadsList field (RawTree.guarded height kind guard) branches) :
    (∀ e ∈ branches.map Prod.fst, e.HasReadableLiterals)
      ∧ ∀ st ∈ branches.flatMap Prod.snd, st.HasReadableLiterals := by
  constructor
  · intro e he
    obtain ⟨branch, hmem, rfl⟩ := List.mem_map.1 he
    obtain ⟨raw, hraw⟩ := h.exists_read hmem
    exact (ih.guarded hraw).1
  · intro st hst
    obtain ⟨branch, hmem, hst⟩ := List.mem_flatMap.1 hst
    obtain ⟨raw, hraw⟩ := h.exists_read hmem
    exact (ih.guarded hraw).2 st hst

theorem ReadsLiterals.block_succ (ih : ReadsLiterals height) {raw : Json} {body : List Statement}
    (h : RawTree.block (height + 1) raw = .ok body) : ∀ st ∈ body, st.HasReadableLiterals := by
  obtain ⟨node, -, hstatements⟩ := block_iff.1 h
  intro st hst
  obtain ⟨raw, hraw⟩ := hstatements.exists_read hst
  exact ih.statement hraw

theorem ReadsLiterals.guarded_succ (ih : ReadsLiterals height) {kind guard : String} {raw : Json}
    {branch : Expression × List Statement}
    (h : RawTree.guarded (height + 1) kind guard raw = .ok branch) :
    branch.1.HasReadableLiterals ∧ ∀ st ∈ branch.2, st.HasReadableLiterals := by
  obtain ⟨node, -, hcondition, hbody⟩ := guarded_iff.1 h
  obtain ⟨rawCondition, hcondition⟩ := hcondition.exists_read
  obtain ⟨rawBody, hbody⟩ := hbody.exists_read
  exact ⟨hasReadableLiterals_of_expression hcondition, ih.block hbody⟩

theorem ReadsLiterals.statement_succ (ih : ReadsLiterals height) {raw : Json} {st : Statement}
    (h : RawTree.statement (height + 1) raw = .ok st) : st.HasReadableLiterals := by
  have hexpression : ∀ {e : Expression}, (∃ raw, expression height raw = .ok e) →
      e.HasReadableLiterals := fun ⟨_, he⟩ => hasReadableLiterals_of_expression he
  have hblock : ∀ {body : List Statement}, (∃ raw, RawTree.block height raw = .ok body) →
      ∀ st ∈ body, st.HasReadableLiterals := fun ⟨_, hbody⟩ => ih.block hbody
  cases statement_iff.1 h with
  | play hnode hpulse hamplitude hduration helement =>
      refine .intro (fun e he => ?_) nofun
      simp only [Statement.expressions, List.mem_append, Option.mem_toList] at he
      rcases he with (he | he) | he
      · exact hasReadableLiterals_of_pulse hpulse e he
      · obtain ⟨raw, hraw⟩ := hamplitude.exists_read he
        exact hasReadableLiterals_of_amplitude hraw
      · exact hexpression (hduration.exists_read he)
  | measure hnode hprocesses hstream hlabel hoperation helement => exact .intro nofun nofun
  | align hnode helements => exact .intro nofun nofun
  | assign hnode htarget hvalue =>
      refine .intro (fun e he => ?_) nofun
      rcases List.mem_append.1 he with he | he
      · exact hasReadableLiterals_of_target (hexpression htarget.exists_read) e he
      · cases List.mem_singleton.1 he
        exact hexpression hvalue.exists_read
  | branch hnode hcondition hbody helseIfs helseBody =>
      obtain ⟨hconditions, hbodies⟩ := ih.branches helseIfs
      refine .intro ?_ ?_
      · exact List.forall_mem_cons.2 ⟨hexpression hcondition.exists_read, hconditions⟩
      · refine List.forall_mem_append.2 ⟨List.forall_mem_append.2 ⟨?_, hbodies⟩, ?_⟩
        · exact hblock hbody.exists_read
        · exact ih.optional helseBody
  | resetPhase hnode helements => exact .intro nofun nofun
  | rampToZero hnode hduration helement =>
      refine .intro (fun e he => ?_) nofun
      exact hexpression (hduration.exists_read (Option.mem_toList.1 he))
  | wait hnode hduration helements =>
      refine .intro (fun e he => ?_) nofun
      cases List.mem_singleton.1 he
      exact hexpression hduration.exists_read
  | frameRotation hnode hangle helements =>
      refine .intro (fun e he => ?_) nofun
      cases List.mem_singleton.1 he
      exact hexpression hangle.exists_read
  | loop hnode hinit hupdate hcondition hbody =>
      refine .intro (fun e he => ?_) ?_
      · cases List.mem_singleton.1 he
        exact hexpression hcondition.exists_read
      · refine List.forall_mem_append.2 ⟨List.forall_mem_append.2 ⟨?_, ?_⟩, ?_⟩
        · exact ih.optional hinit
        · exact ih.optional hupdate
        · exact hblock hbody.exists_read
  | switch hnode hsubject hcases hdefault =>
      obtain ⟨hvalues, hbodies⟩ := ih.branches hcases
      refine .intro ?_ ?_
      · exact List.forall_mem_cons.2 ⟨hexpression hsubject.exists_read, hvalues⟩
      · exact List.forall_mem_append.2 ⟨hbodies, ih.optional hdefault⟩
  | strictTiming hnode hbody =>
      exact .intro nofun (hblock hbody.exists_read)
  | save hnode hvalue hstream =>
      refine .intro (fun e he => ?_) nofun
      cases List.mem_singleton.1 he
      exact hexpression hvalue.exists_read

theorem readsLiterals (height : Nat) : ReadsLiterals height := by
  induction height with
  | zero =>
      constructor
      · intro raw st h
        cases h
      · intro raw body h
        cases h
      · intro kind guard raw branch h
        cases h
  | succ height ih => exact ⟨ih.statement_succ, ih.block_succ, ih.guarded_succ⟩

/-- The literals of an accepted program can all be read. -/
theorem hasReadableLiterals_of_ofTree {tree : Json} {program : Program}
    (h : Program.ofTree tree = .ok program) : program.HasReadableLiterals := by
  obtain ⟨root, -, hbody, -⟩ := ofTree_eq_ok_iff.1 h
  obtain ⟨raw, hraw⟩ := hbody.exists_read
  exact (readsLiterals _).block hraw

end PulseTimeline.RawTree
