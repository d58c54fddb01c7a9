import Mathlib.Data.List.Basic
import PulseTimeline.Proofs.Statement.Words

set_option autoImplicit false

/-! # The layout of statements

A statement with blocks is laid out as arms: a header, and below it, one level deeper, the lines of
a block or `pass`. The arms of a switch stand one level deeper again, below a header of their own.
Whatever stands in a block is laid out as it would be alone, and all depth comes from moving whole
layouts to the right. -/

namespace PulseTimeline

open Text (IsOneLine isOneLine_append isOneLine_intercalate)

namespace Statement

/-! ## Moving lines to the right -/

/-- Lines moved to a depth, by four spaces for each level. -/
def indented (depth : Nat) (ls : List String) : List String := ls.map (indent depth ++ ·)

@[simp] theorem indented_nil (depth : Nat) : indented depth [] = [] := rfl

@[simp] theorem indented_cons (depth : Nat) (line : String) (ls : List String) :
    indented depth (line :: ls) = (indent depth ++ line) :: indented depth ls := rfl

@[simp] theorem indented_append (depth : Nat) (ls others : List String) :
    indented depth (ls ++ others) = indented depth ls ++ indented depth others :=
  List.map_append

@[simp] theorem indented_zero (ls : List String) : indented 0 ls = ls := by
  simp [indented, indent_zero]

theorem indent_add (depth extra : Nat) : indent (depth + extra) = indent extra ++ indent depth := by
  rw [indent, indent, indent, ← String.ofList_append, List.replicate_append_replicate]
  congr 2
  omega

theorem indented_add (depth extra : Nat) (ls : List String) :
    indented (depth + extra) ls = indented extra (indented depth ls) := by
  simp [indented, indent_add, String.append_assoc]

theorem indented_flatMap {α : Type} (depth : Nat) (l : List α) (f : α → List String) :
    indented depth (l.flatMap f) = l.flatMap fun a => indented depth (f a) :=
  List.map_flatMap

/-! ## Layouts -/

/-- The line above a block. -/
def header (keyword subject : String) : String := "with " ++ keyword ++ "(" ++ subject ++ "):"

/-- A block of statements with what its header is written with. -/
structure Arm where
  keyword : String
  subject : String
  block : List Statement

/-- The line above the block of an arm. -/
def Arm.header (arm : Arm) : String := Statement.header arm.keyword arm.subject

/-- Blocks under conditions of their own. -/
def guardedArms (keyword : String) (branches : List (Expression × List Statement)) : List Arm :=
  branches.map fun branch => ⟨keyword, branch.1.text, branch.2⟩

/-- A block under no condition, if there is one. -/
def otherwiseArms (keyword : String) (block : Option (List Statement)) : List Arm :=
  block.toList.map fun block => ⟨keyword, "", block⟩

/-- The header of a loop, without its keyword. -/
def loopSubject (init : List Statement) (condition : Expression) (update : List Statement) :
    String :=
  "[" ++ ", ".intercalate (init.map text) ++ "], " ++ condition.text ++ ", [" ++
    ", ".intercalate (update.map text) ++ "]"

/-- The blocks of a statement with their headers, those of a switch without its own. -/
def arms : Statement → List Arm
  | branch condition body elseIfs elseBody =>
    ⟨"if_", condition.text, body⟩ :: guardedArms "elif_" elseIfs ++
      otherwiseArms "else_" elseBody
  | loop init condition update body => [⟨"for_", loopSubject init condition update, body⟩]
  | switch _ cases default => guardedArms "case_" cases ++ otherwiseArms "default_" default
  | strictTiming body => [⟨"strict_timing_", "", body⟩]
  | _ => []

/-- The lines of a block, where those of its statements are given. -/
def blockLayout (inside : Statement → List String) : List Statement → List String
  | [] => ["pass"]
  | first :: rest => (first :: rest).flatMap inside

/-- The lines of an arm, where those of the statements in its block are given. -/
def Arm.layout (inside : Statement → List String) (arm : Arm) : List String :=
  arm.header :: indented 1 (blockLayout inside arm.block)

/-- The lines of a statement, where those of the statements in its blocks are given. -/
def layout (inside : Statement → List String) (statement : Statement) : List String :=
  match statement with
  | branch .. | loop .. | strictTiming _ => statement.arms.flatMap (Arm.layout inside)
  | switch subject _ _ =>
    header "switch_" subject.text :: indented 1 (statement.arms.flatMap (Arm.layout inside))
  | _ => [statement.text]

/-! ## Statements are written in their layout -/

/-- The statement is written at every depth as at the margin, moved to the right. -/
def KeepsLayout (statement : Statement) : Prop :=
  ∀ depth, lines depth statement = indented depth (lines 0 statement)

variable {block : List Statement}

theorem moreLines_eq (depth : Nat) (block : List Statement) :
    moreLines depth block = block.flatMap (lines depth) := by
  induction block with
  | nil => rw [moreLines, List.flatMap_nil]
  | cons first rest ih => rw [moreLines, ih, List.flatMap_cons]

theorem texts_eq (steps : List Statement) : texts steps = steps.map text := by
  induction steps with
  | nil => rw [texts, List.map_nil]
  | cons first rest ih => rw [texts, ih, List.map_cons, text]

theorem flatMap_lines (depth : Nat) (h : ∀ inner ∈ block, inner.KeepsLayout) :
    block.flatMap (lines depth) = indented depth (block.flatMap (lines 0)) := by
  rw [indented_flatMap]
  exact List.flatMap_congr fun inner hinner => h inner hinner depth

theorem blockLines_eq (depth : Nat) (h : ∀ inner ∈ block, inner.KeepsLayout) :
    blockLines depth block = indented depth (blockLayout (lines 0) block) := by
  cases block with
  | nil => rw [blockLines, blockLayout, indented_cons, indented_nil]
  | cons first rest => rw [blockLines, moreLines_eq, ← List.flatMap_cons, flatMap_lines depth h,
      blockLayout]

/-- The lines of an arm, with its block written one level deeper. -/
theorem cons_blockLines (depth : Nat) (keyword subject : String)
    (h : ∀ inner ∈ block, inner.KeepsLayout) :
    (indent depth ++ header keyword subject) :: blockLines (depth + 1) block
      = indented depth (Arm.layout (lines 0) ⟨keyword, subject, block⟩) := by
  rw [blockLines_eq _ h, Nat.add_comm, indented_add, Arm.layout, indented_cons, Arm.header]

/-! Every form writes its header as one of the parts of a layout. -/

theorem indent_append_header (depth : Nat) (keyword subject : String) :
    indent depth ++ "with " ++ keyword ++ "(" ++ subject ++ "):"
      = indent depth ++ header keyword subject := by
  simp only [header, String.append_assoc]

theorem indent_append_header_empty (depth : Nat) (keyword : String) :
    indent depth ++ "with " ++ keyword ++ "():" = indent depth ++ header keyword "" := by
  simp [header, String.append_assoc]

theorem indent_append_if (depth : Nat) (subject : String) :
    indent depth ++ "with if_(" ++ subject ++ "):" = indent depth ++ header "if_" subject := by
  have hheader : header "if_" subject = "with if_(" ++ subject ++ "):" := rfl
  rw [hheader]
  simp only [String.append_assoc]

theorem indent_append_switch (depth : Nat) (subject : String) :
    indent depth ++ "with switch_(" ++ subject ++ "):"
      = indent depth ++ header "switch_" subject := by
  have hheader : header "switch_" subject = "with switch_(" ++ subject ++ "):" := rfl
  rw [hheader]
  simp only [String.append_assoc]

theorem indent_append_strictTiming (depth : Nat) :
    indent depth ++ "with strict_timing_():" = indent depth ++ header "strict_timing_" "" := rfl

theorem indent_append_for (depth : Nat) (init : List Statement) (condition : Expression)
    (update : List Statement) :
    indent depth ++ "with for_([" ++ ", ".intercalate (texts init) ++ "], " ++ condition.text ++
      ", [" ++ ", ".intercalate (texts update) ++ "]):"
      = indent depth ++ header "for_" (loopSubject init condition update) := by
  have hopening : "with for_([" = "with " ++ "for_" ++ "(" ++ "[" := rfl
  have hclosing : "]):" = "]" ++ "):" := rfl
  rw [texts_eq, texts_eq, header, loopSubject, hopening, hclosing]
  simp only [String.append_assoc]

theorem guardedArms_cons (keyword : String) (branch : Expression × List Statement)
    (rest : List (Expression × List Statement)) : guardedArms keyword (branch :: rest)
      = ⟨keyword, branch.1.text, branch.2⟩ :: guardedArms keyword rest := rfl

theorem branchLines_eq (depth : Nat) (keyword : String)
    {branches : List (Expression × List Statement)}
    (h : ∀ inner ∈ branches.flatMap Prod.snd, inner.KeepsLayout) :
    branchLines depth keyword branches
      = indented depth ((guardedArms keyword branches).flatMap (Arm.layout (lines 0))) := by
  induction branches with
  | nil => rw [branchLines, guardedArms, List.map_nil, List.flatMap_nil, indented_nil]
  | cons branch rest ih =>
      obtain ⟨guard, body⟩ := branch
      obtain ⟨hbody, hrest⟩ := List.forall_mem_append.1 h
      rw [branchLines, indent_append_header, cons_blockLines depth _ _ hbody, ih hrest,
        guardedArms_cons, List.flatMap_cons, indented_append]

theorem otherwiseLines_eq (depth : Nat) (keyword : String) {body : Option (List Statement)}
    (h : ∀ inner ∈ body.getD [], inner.KeepsLayout) :
    otherwiseLines depth keyword body
      = indented depth ((otherwiseArms keyword body).flatMap (Arm.layout (lines 0))) := by
  cases body with
  | none => rfl
  | some block =>
      have hblock : ∀ inner ∈ block, inner.KeepsLayout := h
      rw [otherwiseLines, indent_append_header_empty, cons_blockLines depth _ _ hblock]
      simp [otherwiseArms]

/-- If what stands inside a statement is written at every depth as at the margin, the statement is
    written at every depth in its layout. -/
theorem lines_eq_of_inner {statement : Statement}
    (h : ∀ inner ∈ statement.inner, inner.KeepsLayout) (depth : Nat) :
    lines depth statement = indented depth (statement.layout (lines 0)) := by
  cases statement with
  | branch condition body elseIfs elseBody =>
      obtain ⟨h, helse⟩ := List.forall_mem_append.1 h
      obtain ⟨hbody, helseIfs⟩ := List.forall_mem_append.1 h
      rw [lines, indent_append_if, cons_blockLines depth _ _ hbody, branchLines_eq depth _ helseIfs,
        otherwiseLines_eq depth _ helse]
      simp [layout, arms]
  | loop init condition update body =>
      obtain ⟨-, hbody⟩ := List.forall_mem_append.1 h
      rw [lines, indent_append_for, cons_blockLines depth _ _ hbody]
      simp [layout, arms]
  | switch subject cases default =>
      obtain ⟨hcases, hdefault⟩ := List.forall_mem_append.1 h
      rw [lines, indent_append_switch, branchLines_eq _ _ hcases, otherwiseLines_eq _ _ hdefault,
        Nat.add_comm depth 1, indented_add, indented_add]
      simp [layout, arms]
  | strictTiming body =>
      have hbody : ∀ inner ∈ body, inner.KeepsLayout := h
      rw [lines, indent_append_strictTiming, cons_blockLines depth _ _ hbody]
      simp [layout, arms]
  | _ => exact lines_of_isBasic (by trivial) depth

theorem keepsLayout (statement : Statement) : statement.KeepsLayout := by
  induction statement using inner_induction with
  | h statement ih =>
      intro depth
      rw [lines_eq_of_inner ih depth, lines_eq_of_inner ih 0, indented_zero]

/-- Every statement is written in its layout. -/
theorem lines_eq_layout (depth : Nat) (statement : Statement) :
    lines depth statement = indented depth (statement.layout (lines 0)) :=
  lines_eq_of_inner (fun inner _ => inner.keepsLayout) depth

theorem lines_add (depth extra : Nat) (statement : Statement) :
    lines (depth + extra) statement = indented extra (lines depth statement) := by
  rw [lines_eq_layout, lines_eq_layout, indented_add]

/-! ## The lines of the text -/

theorem flatMap_guardedArms (keyword : String) (branches : List (Expression × List Statement)) :
    (guardedArms keyword branches).flatMap Arm.block = branches.flatMap Prod.snd :=
  List.flatMap_map _ _ branches

theorem flatMap_otherwiseArms (keyword : String) (block : Option (List Statement)) :
    (otherwiseArms keyword block).flatMap Arm.block = block.getD [] := by
  cases block <;> simp [otherwiseArms]

/-- A statement has inside it what starts and advances it and what stands in its blocks. -/
theorem inner_eq (statement : Statement) :
    statement.inner = statement.steps ++ statement.arms.flatMap Arm.block := by
  cases statement <;>
    simp [inner, steps, arms, flatMap_guardedArms, flatMap_otherwiseArms, List.append_assoc]

theorem mem_inner_of_arm {statement inner : Statement} {arm : Arm} (harm : arm ∈ statement.arms)
    (h : inner ∈ arm.block) : inner ∈ statement.inner := by
  rw [inner_eq]
  exact List.mem_append_right _ (List.mem_flatMap.2 ⟨arm, harm, h⟩)

theorem isOneLine_empty : IsOneLine "" := by decide

theorem isOneLine_header {keyword subject : String} (hkeyword : IsOneLine keyword)
    (hsubject : IsOneLine subject) : IsOneLine (header keyword subject) := by
  simp +decide [header, hkeyword, hsubject]

theorem isOneLine_guardedArms {keyword : String} (hkeyword : IsOneLine keyword)
    {branches : List (Expression × List Statement)}
    (h : ∀ e ∈ branches.map Prod.fst, e.HasOneLineWords) :
    ∀ arm ∈ guardedArms keyword branches, IsOneLine arm.header := by
  intro arm harm
  obtain ⟨branch, hbranch, rfl⟩ := List.mem_map.1 harm
  exact isOneLine_header hkeyword
    (branch.1.isOneLine_text (h branch.1 (List.mem_map_of_mem hbranch)))

theorem isOneLine_otherwiseArms {keyword : String} (hkeyword : IsOneLine keyword)
    (block : Option (List Statement)) :
    ∀ arm ∈ otherwiseArms keyword block, IsOneLine arm.header := by
  intro arm harm
  obtain ⟨body, -, rfl⟩ := List.mem_map.1 harm
  exact isOneLine_header hkeyword isOneLine_empty

theorem isOneLine_loopSubject {init update : List Statement} {condition : Expression}
    (hsteps : ∀ step ∈ init ++ update, IsOneLine step.text)
    (hcondition : IsOneLine condition.text) : IsOneLine (loopSubject init condition update) := by
  obtain ⟨hinit, hupdate⟩ := List.forall_mem_append.1 hsteps
  have hfirst := isOneLine_intercalate ", " (by decide)
    (List.forall_mem_map.2 hinit)
  have hlast := isOneLine_intercalate ", " (by decide)
    (List.forall_mem_map.2 hupdate)
  simp +decide [loopSubject, hfirst, hcondition, hlast]

variable {statement : Statement}

theorem isOneLine_arms (hwords : statement.HasOneLineWords) (hsteps : statement.HasBasicSteps) :
    ∀ arm ∈ statement.arms, IsOneLine arm.header := by
  have hspelled := hwords.here
  cases statement with
  | branch condition body elseIfs elseBody =>
      obtain ⟨hcondition, helseIfs⟩ := List.forall_mem_cons.1 hspelled
      have hkeyword : IsOneLine "if_" := by decide
      refine List.forall_mem_append.2 ⟨List.forall_mem_cons.2 ⟨?_, ?_⟩, ?_⟩
      · exact isOneLine_header hkeyword (condition.isOneLine_text hcondition)
      · exact isOneLine_guardedArms (by decide) helseIfs
      · exact isOneLine_otherwiseArms (by decide) elseBody
  | loop init condition update body =>
      have hcondition := condition.isOneLine_text (hspelled condition (List.mem_singleton_self _))
      have hkeyword : IsOneLine "for_" := by decide
      refine List.forall_mem_singleton.2 (isOneLine_header hkeyword ?_)
      refine isOneLine_loopSubject (fun step hstep => ?_) hcondition
      exact isOneLine_text (hsteps.here step hstep)
        (hwords.inside step (List.mem_append_left body hstep))
  | switch subject cases default =>
      obtain ⟨-, hcases⟩ := List.forall_mem_cons.1 hspelled
      refine List.forall_mem_append.2 ⟨?_, ?_⟩
      · exact isOneLine_guardedArms (by decide) hcases
      · exact isOneLine_otherwiseArms (by decide) default
  | strictTiming body =>
      have hkeyword : IsOneLine "strict_timing_" := by decide
      exact List.forall_mem_singleton.2 (isOneLine_header hkeyword isOneLine_empty)
  | _ => exact List.forall_mem_nil _

theorem isOneLine_indented {ls : List String} (h : ∀ line ∈ ls, IsOneLine line) (depth : Nat) :
    ∀ line ∈ indented depth ls, IsOneLine line :=
  List.forall_mem_map.2 fun line hline =>
    isOneLine_append.2 ⟨isOneLine_indent depth, h line hline⟩

theorem isOneLine_arm_layout {inside : Statement → List String} {arm : Arm}
    (hheader : IsOneLine arm.header)
    (hinside : ∀ inner ∈ arm.block, ∀ line ∈ inside inner, IsOneLine line) :
    ∀ line ∈ arm.layout inside, IsOneLine line := by
  refine List.forall_mem_cons.2 ⟨hheader, isOneLine_indented (fun line hline => ?_) 1⟩
  obtain ⟨keyword, subject, block⟩ := arm
  cases block with
  | nil =>
      rw [blockLayout, List.mem_singleton] at hline
      subst hline
      decide
  | cons first rest =>
      obtain ⟨inner, hinner, hline⟩ := List.mem_flatMap.1 hline
      exact hinside inner hinner line hline

/-- What a statement is written as in pieces, is written in as many lines. -/
theorem isOneLine_lines (statement : Statement) (hwords : statement.HasOneLineWords)
    (hsteps : statement.HasBasicSteps) : ∀ line ∈ lines 0 statement, IsOneLine line := by
  induction statement using inner_induction with
  | h statement ih =>
      have harms : ∀ line ∈ statement.arms.flatMap (Arm.layout (lines 0)), IsOneLine line := by
        intro line hline
        obtain ⟨arm, harm, hline⟩ := List.mem_flatMap.1 hline
        refine isOneLine_arm_layout (isOneLine_arms hwords hsteps arm harm) ?_ line hline
        intro inner hinner
        have hmem := mem_inner_of_arm harm hinner
        exact ih inner hmem (hwords.inside inner hmem) (hsteps.inside inner hmem)
      rw [lines_eq_layout, indented_zero]
      cases statement with
      | branch | loop | strictTiming => exact harms
      | switch subject cases default =>
          have hsubject := hwords.here subject (List.mem_cons_self ..)
          exact List.forall_mem_cons.2 ⟨isOneLine_header (by decide)
            (subject.isOneLine_text hsubject), isOneLine_indented harms 1⟩
      | _ => exact List.forall_mem_singleton.2 (isOneLine_text (by trivial) hwords)

/-- What is written for a statement at a depth. -/
def written (depth : Nat) (statement : Statement) : String :=
  "\n".intercalate (lines depth statement)

theorem layout_ne_nil (inside : Statement → List String) (statement : Statement) :
    statement.layout inside ≠ [] := by
  cases statement <;> simp [layout, arms, Arm.layout]

theorem lines_written (hwords : statement.HasOneLineWords) (hsteps : statement.HasBasicSteps)
    (depth : Nat) : Text.lines (statement.written depth) = lines depth statement := by
  have hzero : lines depth statement = indented depth (lines 0 statement) :=
    statement.keepsLayout depth
  refine Text.lines_intercalate ?_ ?_
  · rw [lines_eq_layout, indented, ne_eq, List.map_eq_nil_iff]
    exact layout_ne_nil _ statement
  · rw [hzero]
    exact isOneLine_indented (isOneLine_lines statement hwords hsteps) depth

theorem lines_text (hwords : statement.HasOneLineWords) (hsteps : statement.HasBasicSteps) :
    Text.lines statement.text = lines 0 statement :=
  lines_written hwords hsteps 0

theorem blockLayout_congr {inside other : Statement → List String} {block : List Statement}
    (h : ∀ inner ∈ block, inside inner = other inner) :
    blockLayout inside block = blockLayout other block := by
  cases block with
  | nil => rfl
  | cons first rest => exact List.flatMap_congr h

theorem layout_congr {inside other : Statement → List String}
    (h : ∀ arm ∈ statement.arms, ∀ inner ∈ arm.block, inside inner = other inner) :
    statement.layout inside = statement.layout other := by
  have harms : statement.arms.flatMap (Arm.layout inside)
      = statement.arms.flatMap (Arm.layout other) :=
    List.flatMap_congr fun arm harm => by
      rw [Arm.layout, Arm.layout, blockLayout_congr (h arm harm)]
  cases statement with
  | branch | loop | strictTiming => exact harms
  | switch subject cases default => rw [layout, layout, harms]
  | _ => rfl

/-- **Rendering is compositional in depth.** If no word of a statement breaks its line and its loops
    start and advance by statements without blocks, the lines that are written for it at a greater
    depth are those at the lesser one behind the spaces for the difference. At every depth they are
    its layout, moved there as a whole, in which each statement of a block stands as the lines of
    its own text, moved to the depth of the block. -/
theorem rendering_is_compositional_in_depth (statement : Statement)
    (hwords : statement.HasOneLineWords) (hsteps : statement.HasBasicSteps) :
    (∀ depth extra, Text.lines (statement.written (depth + extra))
      = indented extra (Text.lines (statement.written depth)))
    ∧ ∀ depth, Text.lines (statement.written depth)
      = indented depth (statement.layout fun inner => Text.lines inner.text) := by
  have hinner : statement.layout (lines 0)
      = statement.layout fun inner => Text.lines inner.text := by
    refine layout_congr fun arm harm inner hinner => ?_
    have hmem := mem_inner_of_arm harm hinner
    exact (lines_text (hwords.inside inner hmem) (hsteps.inside inner hmem)).symm
  refine ⟨fun depth extra => ?_, fun depth => ?_⟩
  · rw [lines_written hwords hsteps, lines_written hwords hsteps, lines_add]
  · rw [lines_written hwords hsteps, lines_eq_layout, hinner]

/-- A loop around a switch with an empty case. -/
def loopedSwitch : Statement :=
  loop [assign (.reference "i") (.literal "0" none)] (.reference "go") []
    [switch (.reference "i") [(.literal "0" none, [])] none]

theorem hasOneLineWords_loopedSwitch : loopedSwitch.HasOneLineWords := by
  have hi : (Expression.reference "i").HasOneLineWords := ⟨by decide, List.forall_mem_nil _⟩
  have hgo : (Expression.reference "go").HasOneLineWords := ⟨by decide, List.forall_mem_nil _⟩
  have hzero : (Expression.literal "0" none).HasOneLineWords := ⟨by decide, List.forall_mem_nil _⟩
  have hboth := List.forall_mem_cons.2 ⟨hi, List.forall_mem_singleton.2 hzero⟩
  exact ⟨List.forall_mem_singleton.2 hgo,
    List.forall_mem_cons.2 ⟨everywhere_of_isBasic trivial hboth,
      List.forall_mem_singleton.2 ⟨hboth, List.forall_mem_nil _⟩⟩⟩

theorem hasBasicSteps_loopedSwitch : loopedSwitch.HasBasicSteps :=
  ⟨List.forall_mem_singleton.2 trivial, List.forall_mem_cons.2
    ⟨everywhere_of_isBasic trivial (List.forall_mem_nil _),
      List.forall_mem_singleton.2 ⟨List.forall_mem_nil _, List.forall_mem_nil _⟩⟩⟩

/-- One level of the loop moves all of its lines, those of the case by one level as well. -/
theorem composition_of_loopedSwitch :
    loopedSwitch.HasOneLineWords ∧ loopedSwitch.HasBasicSteps
    ∧ Text.lines (loopedSwitch.written (0 + 1)) = indented 1 (Text.lines (loopedSwitch.written 0))
    ∧ Text.lines (loopedSwitch.written 1)
      = ["    with for_([assign(i, 0)], go, []):",
        "        with switch_(i):",
        "            with case_(0):",
        "                pass"] := by
  refine ⟨hasOneLineWords_loopedSwitch, hasBasicSteps_loopedSwitch,
    (rendering_is_compositional_in_depth loopedSwitch hasOneLineWords_loopedSwitch
      hasBasicSteps_loopedSwitch).1 0 1, ?_⟩
  rw [lines_written hasOneLineWords_loopedSwitch hasBasicSteps_loopedSwitch]
  decide

end Statement

end PulseTimeline
