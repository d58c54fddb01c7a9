import PulseTimeline.Proofs.Statement.Layout
import PulseTimeline.RawTree.Program

set_option autoImplicit false

/-! # Headers and what stands below them

A text is structured into blocks if every header is followed by a line one level deeper. In the
layout of a statement the headers of blocks always are, since an empty block is written as `pass`.
The header of a switch has its cases below it, and nothing at all if it has none. -/

namespace PulseTimeline

namespace Text

/-! ## Lines of a block-structured text -/

/-- How many spaces a line begins with. -/
def indentation (line : String) : Nat := (line.toList.takeWhile (· == ' ')).length

/-- Behind its white space, the line begins and ends as the header of a block does. -/
def IsHeader (line : String) : Prop :=
  "with ".toList <+: line.toList.dropWhile (· == ' ')
    ∧ ":".toList <:+ line.toList.dropWhile (· == ' ')

instance (line : String) : Decidable (IsHeader line) := inferInstanceAs (Decidable (_ ∧ _))

/-- Every header is followed by a line that stands four spaces deeper. -/
def IsBlockStructured (ls : List String) : Prop :=
  ∀ (position : Nat) (header : String), ls[position]? = some header → IsHeader header →
    ∃ next, ls[position + 1]? = some next ∧ indentation next = indentation header + 4

variable {line : String} {ls others : List String}

theorem isBlockStructured_nil : IsBlockStructured [] := by simp [IsBlockStructured]

theorem isBlockStructured_cons_iff : IsBlockStructured (line :: ls)
    ↔ (IsHeader line → ∃ next, ls.head? = some next ∧ indentation next = indentation line + 4)
      ∧ IsBlockStructured ls := by
  constructor
  · intro h
    refine ⟨fun hheader => ?_, fun position header hline => h (position + 1) header hline⟩
    rw [List.head?_eq_getElem?]
    exact h 0 line rfl hheader
  · rintro ⟨hfirst, hrest⟩ position header hline hheader
    cases position with
    | zero =>
        cases hline
        rw [List.getElem?_cons_succ, ← List.head?_eq_getElem?]
        exact hfirst hheader
    | succ position => exact hrest position header hline hheader

theorem isBlockStructured_singleton_iff : IsBlockStructured [line] ↔ ¬ IsHeader line := by
  simp [isBlockStructured_cons_iff, isBlockStructured_nil]

/-- The first of the lines, if there are any, stands at the margin. -/
def StartAtMargin (ls : List String) : Prop :=
  ∀ first, ls.head? = some first → indentation first = 0

theorem startAtMargin_cons_iff : StartAtMargin (line :: ls) ↔ indentation line = 0 := by
  simp [StartAtMargin]

theorem StartAtMargin.append (h : StartAtMargin ls) (hothers : StartAtMargin others) :
    StartAtMargin (ls ++ others) := by
  cases ls with
  | nil => exact hothers
  | cons line rest => exact startAtMargin_cons_iff.2 (startAtMargin_cons_iff.1 h)

/-- A line at the margin belongs to no header above it. -/
theorem isBlockStructured_append_iff (hmargin : StartAtMargin others) :
    IsBlockStructured (ls ++ others) ↔ IsBlockStructured ls ∧ IsBlockStructured others := by
  induction ls with
  | nil => simp [isBlockStructured_nil]
  | cons line rest ih =>
      rw [List.cons_append, isBlockStructured_cons_iff, isBlockStructured_cons_iff, ih, and_assoc]
      cases rest with
      | cons second more => simp
      | nil =>
          -- What follows the last line stands at the margin, so it is not deeper than a header.
          have hshallow : ∀ next, others.head? = some next →
              indentation next ≠ indentation line + 4 := by
            intro next hnext
            rw [hmargin next hnext]
            omega
          simp only [List.nil_append, List.head?_nil]
          refine and_congr_left fun _ => forall_congr' fun _ => iff_of_false ?_ ?_
          · rintro ⟨next, hnext, hdeeper⟩
            exact hshallow next hnext hdeeper
          · simp

section

variable {α : Type} {l : List α} {f : α → List String}

theorem startAtMargin_flatMap (h : ∀ a ∈ l, StartAtMargin (f a)) : StartAtMargin (l.flatMap f) := by
  induction l with
  | nil => simp [StartAtMargin]
  | cons a rest ih =>
      obtain ⟨ha, hrest⟩ := List.forall_mem_cons.1 h
      exact ha.append (ih hrest)

theorem isBlockStructured_flatMap_iff (h : ∀ a ∈ l, StartAtMargin (f a)) :
    IsBlockStructured (l.flatMap f) ↔ ∀ a ∈ l, IsBlockStructured (f a) := by
  induction l with
  | nil => simp [isBlockStructured_nil]
  | cons a rest ih =>
      obtain ⟨-, hrest⟩ := List.forall_mem_cons.1 h
      rw [List.flatMap_cons, isBlockStructured_append_iff (startAtMargin_flatMap hrest), ih hrest,
        List.forall_mem_cons]

end

/-! ## Where a line stands -/

theorem takeWhile_of_head {c : Char} {rest : List Char} (hline : line.toList = c :: rest)
    (hc : (c == ' ') = false) : indentation line = 0
      ∧ line.toList.dropWhile (· == ' ') = line.toList := by
  simp [indentation, hline, hc]

/-- A line that begins with a word of five letters other than the one that headers begin with. -/
theorem not_isHeader_of_opening {opening : String} (hline : opening.toList <+: line.toList)
    (hlength : 5 ≤ opening.toList.length) (hspace : opening.toList.head? ≠ some ' ')
    (hother : ¬ "with ".toList <+: opening.toList) : indentation line = 0 ∧ ¬ IsHeader line := by
  obtain ⟨rest, hrest⟩ := hline
  cases hopening : opening.toList with
  | nil =>
      rw [hopening] at hlength
      simp at hlength
  | cons c word =>
      have hc : (c == ' ') = false := by simpa [hopening] using hspace
      have hhead : line.toList = c :: (word ++ rest) := by
        rw [← hrest, hopening, List.cons_append]
      obtain ⟨hmargin, hdrop⟩ := takeWhile_of_head hhead hc
      refine ⟨hmargin, fun hheader => hother ?_⟩
      have hwith := hdrop ▸ hheader.1
      exact List.prefix_of_prefix_length_le hwith ⟨rest, hrest⟩ hlength

end Text

namespace Statement

open Text (IsHeader IsBlockStructured StartAtMargin indentation)

/-! ## Moving lines to the right -/

theorem toList_indent (depth : Nat) : (indent depth).toList = List.replicate (4 * depth) ' ' :=
  String.toList_ofList

theorem indentation_indent_append (depth : Nat) (line : String) :
    indentation (indent depth ++ line) = 4 * depth + indentation line := by
  have hspaces : ∀ c ∈ List.replicate (4 * depth) ' ', (c == ' ') = true := by simp
  rw [indentation, indentation, String.toList_append, toList_indent,
    List.takeWhile_append_of_pos hspaces, List.length_append, List.length_replicate]

theorem isHeader_indent_append (depth : Nat) (line : String) :
    IsHeader (indent depth ++ line) ↔ IsHeader line := by
  have hspaces : ∀ c ∈ List.replicate (4 * depth) ' ', (c == ' ') = true := by simp
  rw [IsHeader, IsHeader, String.toList_append, toList_indent,
    List.dropWhile_append_of_pos hspaces]

theorem isBlockStructured_indented_iff (depth : Nat) (ls : List String) :
    IsBlockStructured (indented depth ls) ↔ IsBlockStructured ls := by
  induction ls with
  | nil => rfl
  | cons line rest ih =>
      rw [indented_cons, Text.isBlockStructured_cons_iff, Text.isBlockStructured_cons_iff, ih,
        isHeader_indent_append]
      cases rest with
      | nil => simp
      | cons second more => simp [indentation_indent_append, Nat.add_assoc]

/-! ## The lines of layouts -/

theorem toList_header (keyword subject : String) : (header keyword subject).toList
    = "with ".toList ++ (keyword.toList ++ "(".toList ++ subject.toList ++ ")".toList)
      ++ ":".toList := by
  have hclosing : "):".toList = ")".toList ++ ":".toList := rfl
  simp only [header, String.toList_append, hclosing, List.append_assoc]

theorem indentation_header (keyword subject : String) :
    indentation (header keyword subject) = 0 :=
  (Text.takeWhile_of_head (toList_header keyword subject) rfl).1

theorem isHeader_header (keyword subject : String) : IsHeader (header keyword subject) := by
  have hline := toList_header keyword subject
  obtain ⟨-, hdrop⟩ := Text.takeWhile_of_head hline rfl
  rw [IsHeader, hdrop, hline]
  exact ⟨List.append_assoc .. ▸ List.prefix_append _ _, List.suffix_append _ _⟩

/-- The words that statements without blocks begin with. -/
def openings : List String :=
  ["play(", "measure(", "align(", "assign(", "reset_frame(", "ramp_to_zero(", "wait(",
    "frame_rotation_2pi(", "save("]

theorem exists_opening {statement : Statement} (hbasic : statement.IsBasic) :
    ∃ opening ∈ openings, opening.toList <+: statement.text.toList := by
  cases statement with
  | branch | loop | switch | strictTiming => exact hbasic.elim
  | play => exact ⟨"play(", by decide, by simp [text, lines, indent_zero]⟩
  | measure element operation =>
      refine ⟨"measure(", by decide, ?_⟩
      cases operation <;> simp [text, lines, indent_zero]
  | align => exact ⟨"align(", by decide, by simp [text, lines, indent_zero]⟩
  | assign => exact ⟨"assign(", by decide, by simp [text, lines, indent_zero]⟩
  | resetPhase => exact ⟨"reset_frame(", by decide, by simp [text, lines, indent_zero]⟩
  | rampToZero => exact ⟨"ramp_to_zero(", by decide, by simp [text, lines, indent_zero]⟩
  | wait => exact ⟨"wait(", by decide, by simp [text, lines, indent_zero]⟩
  | frameRotation => exact ⟨"frame_rotation_2pi(", by decide, by simp [text, lines, indent_zero]⟩
  | save => exact ⟨"save(", by decide, by simp [text, lines, indent_zero]⟩

theorem not_isHeader_text {statement : Statement} (hbasic : statement.IsBasic) :
    indentation statement.text = 0 ∧ ¬ IsHeader statement.text := by
  have hopenings : ∀ opening ∈ openings, 5 ≤ opening.toList.length
      ∧ opening.toList.head? ≠ some ' ' ∧ ¬ "with ".toList <+: opening.toList := by decide
  obtain ⟨opening, hmem, hline⟩ := exists_opening hbasic
  obtain ⟨hlength, hspace, hother⟩ := hopenings opening hmem
  exact Text.not_isHeader_of_opening hline hlength hspace hother

/-- The statement is a switch with neither cases nor a default. -/
def IsEmptySwitch : Statement → Prop
  | switch _ [] none => True
  | _ => False

/-- Below a header at the margin, lines that begin one level deeper are what it needs. -/
theorem isBlockStructured_header_iff (keyword subject : String) {ls : List String}
    (hmargin : StartAtMargin ls) :
    IsBlockStructured (header keyword subject :: indented 1 ls)
      ↔ ls ≠ [] ∧ IsBlockStructured ls := by
  rw [Text.isBlockStructured_cons_iff, isBlockStructured_indented_iff, indentation_header]
  cases ls with
  | nil => simp [isHeader_header]
  | cons first rest =>
      have hfirst := Text.startAtMargin_cons_iff.1 hmargin
      simp [indentation_indent_append, hfirst]

section

variable {inside : Statement → List String} {statement : Statement} {block : List Statement}
  {arm : Arm}

theorem not_isEmptySwitch (hbasic : statement.IsBasic) : ¬ statement.IsEmptySwitch := by
  cases statement with
  | switch => exact hbasic.elim
  | _ => exact not_false

theorem startAtMargin_blockLayout (h : ∀ inner ∈ block, StartAtMargin (inside inner)) :
    StartAtMargin (blockLayout inside block) := by
  cases block with
  | nil => exact Text.startAtMargin_cons_iff.2 (by decide)
  | cons first rest => exact Text.startAtMargin_flatMap h

theorem blockLayout_ne_nil (h : ∀ inner ∈ block, inside inner ≠ []) :
    blockLayout inside block ≠ [] := by
  cases block with
  | nil => exact List.cons_ne_nil _ _
  | cons first rest =>
      rw [blockLayout, List.flatMap_cons]
      exact List.append_ne_nil_of_left_ne_nil (h first (List.mem_cons_self ..)) _

theorem isBlockStructured_blockLayout_iff (h : ∀ inner ∈ block, StartAtMargin (inside inner)) :
    IsBlockStructured (blockLayout inside block)
      ↔ ∀ inner ∈ block, IsBlockStructured (inside inner) := by
  cases block with
  | nil =>
      have hpass : IsBlockStructured ["pass"] :=
        Text.isBlockStructured_singleton_iff.2 (by decide)
      exact iff_of_true hpass (List.forall_mem_nil _)
  | cons first rest => exact Text.isBlockStructured_flatMap_iff h

theorem startAtMargin_arm (inside : Statement → List String) (arm : Arm) :
    StartAtMargin (arm.layout inside) :=
  Text.startAtMargin_cons_iff.2 (indentation_header arm.keyword arm.subject)

variable (hne : ∀ inner, inside inner ≠ []) (hmargin : ∀ inner, StartAtMargin (inside inner))

include hne hmargin

/-- The header of an arm has its block below it, whatever the block is. -/
theorem isBlockStructured_arm_iff : IsBlockStructured (arm.layout inside)
    ↔ ∀ inner ∈ arm.block, IsBlockStructured (inside inner) := by
  have hblock : ∀ inner ∈ arm.block, StartAtMargin (inside inner) := fun inner _ => hmargin inner
  rw [Arm.layout, Arm.header, isBlockStructured_header_iff _ _ (startAtMargin_blockLayout hblock),
    isBlockStructured_blockLayout_iff hblock]
  exact and_iff_right (blockLayout_ne_nil fun inner _ => hne inner)

theorem isBlockStructured_arms_iff (arms : List Arm) :
    IsBlockStructured (arms.flatMap (Arm.layout inside))
      ↔ ∀ arm ∈ arms, ∀ inner ∈ arm.block, IsBlockStructured (inside inner) := by
  rw [Text.isBlockStructured_flatMap_iff fun arm _ => startAtMargin_arm inside arm]
  exact forall₂_congr fun arm _ => isBlockStructured_arm_iff hne hmargin

/-- Nothing but the header of a switch can lack what stands below it. -/
theorem isBlockStructured_layout_iff (statement : Statement) :
    IsBlockStructured (statement.layout inside)
      ↔ ¬ statement.IsEmptySwitch
        ∧ ∀ arm ∈ statement.arms, ∀ inner ∈ arm.block, IsBlockStructured (inside inner) := by
  cases statement with
  | branch | loop | strictTiming =>
      rw [layout, isBlockStructured_arms_iff hne hmargin]
      exact (and_iff_right not_false).symm
  | switch subject cases default =>
      have harms : (switch subject cases default).arms.flatMap (Arm.layout inside) ≠ []
          ↔ ¬ (switch subject cases default).IsEmptySwitch := by
        cases cases <;> cases default <;>
          simp [arms, guardedArms, otherwiseArms, Arm.layout, IsEmptySwitch]
      rw [layout, isBlockStructured_header_iff _ _
        (Text.startAtMargin_flatMap fun arm _ => startAtMargin_arm inside arm), harms,
        isBlockStructured_arms_iff hne hmargin]
  | _ =>
      refine iff_of_true (Text.isBlockStructured_singleton_iff.2 ?_)
        ⟨not_false, List.forall_mem_nil _⟩
      exact (not_isHeader_text (by trivial)).2

end

/-! ## Statements -/

theorem startAtMargin_layout (inside : Statement → List String) (statement : Statement) :
    StartAtMargin (statement.layout inside) := by
  have harms : StartAtMargin (statement.arms.flatMap (Arm.layout inside)) :=
    Text.startAtMargin_flatMap fun arm _ => startAtMargin_arm inside arm
  cases statement with
  | branch | loop | strictTiming => exact harms
  | switch subject cases default =>
      exact Text.startAtMargin_cons_iff.2 (indentation_header "switch_" subject.text)
  | _ => exact Text.startAtMargin_cons_iff.2 (not_isHeader_text (by trivial)).1

theorem isBlockStructured_lines_iff (statement : Statement) (hsteps : statement.HasBasicSteps) :
    IsBlockStructured (lines 0 statement)
      ↔ statement.Everywhere fun inner => ¬ inner.IsEmptySwitch := by
  have hne : ∀ inner, lines 0 inner ≠ [] := fun inner => by
    rw [lines_eq_layout, indented_zero]
    exact layout_ne_nil _ inner
  have hmargin : ∀ inner, StartAtMargin (lines 0 inner) := fun inner => by
    rw [lines_eq_layout, indented_zero]
    exact startAtMargin_layout _ inner
  induction statement using inner_induction with
  | h statement ih =>
      rw [lines_eq_layout, indented_zero, isBlockStructured_layout_iff hne hmargin]
      constructor
      · rintro ⟨hself, hblocks⟩
        refine ⟨hself, fun inner hinner => ?_⟩
        rw [inner_eq] at hinner
        rcases List.mem_append.1 hinner with hstep | hblock
        · -- What starts or advances a loop has no blocks, so it is no switch.
          have hbasic := hsteps.here inner hstep
          exact everywhere_of_isBasic hbasic (not_isEmptySwitch hbasic)
        · obtain ⟨arm, harm, hinner⟩ := List.mem_flatMap.1 hblock
          have hmem := mem_inner_of_arm harm hinner
          exact (ih inner hmem (hsteps.inside inner hmem)).1 (hblocks arm harm inner hinner)
      · intro h
        refine ⟨h.here, fun arm harm inner hinner => ?_⟩
        have hmem := mem_inner_of_arm harm hinner
        exact (ih inner hmem (hsteps.inside inner hmem)).2 (h.inside inner hmem)

/-- **Every header has a body unless a switch is empty.** If no word of a statement breaks its line
    and its loops start and advance by statements without blocks, every header in the text of the
    statement is followed by a line four spaces deeper exactly if no switch in it, however deep, is
    without cases and without a default. -/
theorem headers_have_bodies_iff (statement : Statement) (hwords : statement.HasOneLineWords)
    (hsteps : statement.HasBasicSteps) :
    IsBlockStructured (Text.lines statement.text)
      ↔ statement.Everywhere fun inner => ¬ inner.IsEmptySwitch := by
  rw [lines_text hwords hsteps]
  exact isBlockStructured_lines_iff statement hsteps

/-- The switch in the loop has a case, whose block is empty. -/
theorem bodies_of_loopedSwitch :
    loopedSwitch.HasOneLineWords ∧ loopedSwitch.HasBasicSteps
      ∧ IsBlockStructured (Text.lines loopedSwitch.text) := by
  refine ⟨hasOneLineWords_loopedSwitch, hasBasicSteps_loopedSwitch,
    (headers_have_bodies_iff loopedSwitch hasOneLineWords_loopedSwitch
      hasBasicSteps_loopedSwitch).2 ⟨not_false, List.forall_mem_cons.2 ⟨?_, ?_⟩⟩⟩
  · exact everywhere_of_isBasic trivial not_false
  · exact List.forall_mem_singleton.2 ⟨not_false, List.forall_mem_nil _⟩

/-- A tree of one statement, a switch with neither cases nor a default. -/
def caselessTree : Json :=
  .object [("body", .object [("statements", .array [.object [("switch", .object
    [("expression", .object [("variable", .object [("name", .text "n")])])])]])])]

/-- The tree is accepted. The text of its statement is a header with nothing below it. -/
theorem caselessSwitch_has_no_body :
    ∃ statement, Program.ofTree caselessTree = .ok ⟨[statement], []⟩
      ∧ statement.HasOneLineWords ∧ statement.HasBasicSteps
      ∧ Text.lines statement.text = ["with switch_(n):"]
      ∧ ¬ IsBlockStructured (Text.lines statement.text) := by
  have hwords : (switch (.reference "n") [] none).HasOneLineWords :=
    ⟨List.forall_mem_singleton.2 ⟨by decide, List.forall_mem_nil _⟩, List.forall_mem_nil _⟩
  have hsteps : (switch (.reference "n") [] none).HasBasicSteps :=
    ⟨List.forall_mem_nil _, List.forall_mem_nil _⟩
  have hlines : Text.lines (switch (.reference "n") [] none).text = ["with switch_(n):"] := by
    rw [lines_text hwords hsteps]
    decide
  refine ⟨switch (.reference "n") [] none, rfl, hwords, hsteps, hlines, ?_⟩
  rw [hlines, Text.isBlockStructured_singleton_iff]
  decide

end Statement

end PulseTimeline
