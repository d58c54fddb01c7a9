import PulseTimeline.Proofs.Syntax
import PulseTimeline.Proofs.Text.Lines
import PulseTimeline.Statement.Render

set_option autoImplicit false

/-! # Statements on one line

A rendered statement is made of keywords, quoted names and the words of its expressions: the names
of variables, functions and libraries, and the texts of literals, all as they are. Keywords and
quoted names have no line breaks, so if the words have none either, a statement without blocks is
rendered on one line. -/

namespace PulseTimeline

open Text (IsOneLine isOneLine_append isOneLine_intercalate isOneLine_quote)

/-! ## Expressions -/

namespace Expression

/-- The names and the text of a literal that an expression itself is written with. -/
def words : Expression → List String
  | reference name => [name]
  | literal text _ => [text]
  | binary _ _ _ => []
  | unary _ _ => []
  | call library function _ => [library, function]
  | cell array _ => [array]

/-- No word of the expression has a line break. -/
def HasOneLineWords : Expression → Prop :=
  Everywhere fun expression => ∀ word ∈ expression.words, IsOneLine word

theorem isOneLine_binarySymbol (operator : BinaryOperator) :
    IsOneLine operator.names.symbol := by
  cases operator <;> decide

theorem isOneLine_unarySymbol (operator : UnaryOperator) : IsOneLine operator.names.symbol := by
  cases operator <;> decide

mutual

theorem isOneLine_text : (expression : Expression) → expression.HasOneLineWords →
    IsOneLine expression.text
  | reference name, h => by
      rw [text]
      exact h.here name (List.mem_singleton_self name)
  | literal text _, h => by
      rw [Expression.text]
      exact h.here text (List.mem_singleton_self text)
  | binary left operator right, h => by
      have hleft := isOneLine_text left (h.inside left List.mem_cons_self)
      have hright := isOneLine_text right (h.inside right (.tail left List.mem_cons_self))
      rw [text]
      simp +decide [hleft, hright, isOneLine_binarySymbol]
  | unary operator operand, h => by
      have hoperand := isOneLine_text operand (h.inside operand List.mem_cons_self)
      rw [text]
      simp [hoperand, isOneLine_unarySymbol]
  | call library function arguments, h => by
      have hlibrary := h.here library (by simp [words])
      have hfunction := h.here function (by simp [words])
      have harguments := isOneLine_intercalate ", " (by decide)
        (isOneLine_texts arguments h.inside)
      rw [text]
      simp +decide [hlibrary, hfunction, harguments]
  | cell array index, h => by
      have harray := h.here array (List.mem_singleton_self array)
      have hindex := isOneLine_text index (h.inside index List.mem_cons_self)
      rw [text]
      simp +decide [harray, hindex]

theorem isOneLine_texts : (expressions : List Expression) →
    (∀ e ∈ expressions, e.HasOneLineWords) → ∀ line ∈ texts expressions, IsOneLine line
  | [], _ => by
      rw [texts]
      exact List.forall_mem_nil _
  | first :: rest, h => by
      obtain ⟨hfirst, hrest⟩ := List.forall_mem_cons.1 h
      rw [texts]
      exact List.forall_mem_cons.2 ⟨isOneLine_text first hfirst, isOneLine_texts rest hrest⟩

end

end Expression

/-! ## Statements -/

theorem Target.text_expression (target : Target) : target.expression.text = target.text := by
  cases target <;> simp only [expression, Expression.text, text]

namespace Statement

/-- The expressions that a statement itself is written with, among them its target. -/
def spelled : Statement → List Expression
  | assign target value => [target.expression, value]
  | statement => statement.expressions

/-- No word of the expressions that the statement is written with has a line break. -/
def HasOneLineWords : Statement → Prop :=
  Everywhere fun statement => ∀ e ∈ statement.spelled, e.HasOneLineWords

/-- The statements that start and advance a loop. -/
def steps : Statement → List Statement
  | loop init _ update _ => init ++ update
  | _ => []

/-- The statements that start and advance a loop have no blocks, in whatever loop of the
    statement. -/
def HasBasicSteps : Statement → Prop :=
  Everywhere fun statement => ∀ step ∈ statement.steps, step.IsBasic

theorem isOneLine_indent (depth : Nat) : IsOneLine (indent depth) := by
  simp [IsOneLine, indent]

theorem isOneLine_quoted (elements : List String) : IsOneLine (quoted elements) := by
  refine isOneLine_intercalate ", " (by decide) fun text htext => ?_
  obtain ⟨element, -, rfl⟩ := List.mem_map.1 htext
  exact isOneLine_quote element

theorem isOneLine_optionalText (before after : String) {part : Option Expression}
    (hbefore : IsOneLine before) (hafter : IsOneLine after)
    (h : ∀ e ∈ part.toList, e.HasOneLineWords) : IsOneLine (optionalText before part after) := by
  cases part with
  | none =>
      rw [optionalText]
      decide
  | some e =>
      have he := e.isOneLine_text (h e (by simp))
      simp [optionalText, hbefore, he, hafter]

theorem isOneLine_pulseText {pulse : Pulse} (h : ∀ e ∈ pulse.expressions, e.HasOneLineWords) :
    IsOneLine (pulseText pulse) := by
  cases pulse with
  | named operation => exact isOneLine_quote operation
  | ramp slope =>
      have hslope := slope.isOneLine_text (h slope (by simp [Pulse.expressions]))
      simp +decide [pulseText, hslope]

theorem indent_zero : indent 0 = "" := rfl

/-- A statement without blocks is written as one piece. -/
theorem lines_of_isBasic {statement : Statement} (hbasic : statement.IsBasic) (depth : Nat) :
    lines depth statement = [indent depth ++ statement.text] := by
  cases statement with
  | branch | loop | switch | strictTiming => exact hbasic.elim
  | measure element operation =>
      cases operation <;> simp [text, lines, indent_zero, String.append_assoc]
  | _ => simp [text, lines, indent_zero, String.append_assoc]

theorem isOneLine_text {statement : Statement} (hbasic : statement.IsBasic)
    (hwords : statement.HasOneLineWords) : IsOneLine statement.text := by
  have hspelled := hwords.here
  cases statement with
  | branch | loop | switch | strictTiming => exact hbasic.elim
  | play pulse element amplitude duration =>
      obtain ⟨h, hduration⟩ := List.forall_mem_append.1 hspelled
      obtain ⟨hpulse, hamplitude⟩ := List.forall_mem_append.1 h
      have hfactor := isOneLine_optionalText " * amp(" ")" (by decide) (by decide) hamplitude
      have hlength := isOneLine_optionalText ", duration=" "" (by decide) (by decide) hduration
      simp +decide [text, lines, isOneLine_pulseText hpulse, hfactor, hlength,
        isOneLine_quote]
  | measure element operation =>
      cases operation <;> simp +decide [text, lines, isOneLine_quote]
  | align elements => simp +decide [text, lines, isOneLine_quoted]
  | resetPhase elements => simp +decide [text, lines, isOneLine_quoted]
  | assign target value =>
      have htarget := target.expression.isOneLine_text (hspelled _ (by simp [spelled]))
      have hvalue := value.isOneLine_text (hspelled value (by simp [spelled]))
      rw [Target.text_expression] at htarget
      simp +decide [text, lines, htarget, hvalue]
  | rampToZero element duration =>
      have hlength := isOneLine_optionalText ", " "" (by decide) (by decide) hspelled
      simp +decide [text, lines, isOneLine_quote, hlength]
  | wait duration elements =>
      have hduration := duration.isOneLine_text (hspelled duration (by simp [spelled, expressions]))
      simp +decide [text, lines, hduration, isOneLine_quoted]
  | frameRotation angle elements =>
      have hangle := angle.isOneLine_text (hspelled angle (by simp [spelled, expressions]))
      simp +decide [text, lines, hangle, isOneLine_quoted]
  | save value stream =>
      have hvalue := value.isOneLine_text (hspelled value (by simp [spelled, expressions]))
      simp +decide [text, lines, hvalue, isOneLine_quote]

end Statement

end PulseTimeline
