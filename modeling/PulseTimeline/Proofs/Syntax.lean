import PulseTimeline.Program
import PulseTimeline.Value.Literal

set_option autoImplicit false

/-! # What stands inside a program

Expressions stand inside expressions and statements inside statements, without bound. A law about a
whole program is a property of what stands at one place, asked for `Everywhere`; what is asked of
the expressions of a program is asked of every statement about its own ones. The variables of a
program do not nest, and what is known of them is said of one definition at a time. -/

namespace PulseTimeline

/-! ## Expressions -/

namespace Expression

/-- The expressions directly inside an expression. -/
def operands : Expression → List Expression
  | reference _ => []
  | literal _ _ => []
  | binary left _ right => [left, right]
  | unary _ operand => [operand]
  | call _ _ arguments => arguments
  | cell _ index => [index]

/-- A property of an expression and of all expressions inside it. -/
inductive Everywhere (P : Expression → Prop) : Expression → Prop where
  | intro {expression : Expression} (here : P expression)
    (inside : ∀ operand ∈ expression.operands, Everywhere P operand) : Everywhere P expression

variable {P : Expression → Prop} {expression : Expression}

theorem Everywhere.here (h : expression.Everywhere P) : P expression := by
  cases h with
  | intro here inside => exact here

theorem Everywhere.inside (h : expression.Everywhere P) :
    ∀ operand ∈ expression.operands, operand.Everywhere P := by
  cases h with
  | intro here inside => exact inside

/-- Every literal of the expression can be read as a value of the type that it is to have. -/
def HasReadableLiterals : Expression → Prop :=
  Everywhere fun expression => ∀ text type, expression = literal text type →
    ∃ value, Value.ofLiteral text type = .ok value

/-- The expression calls no function. -/
def CallFree : Expression → Prop :=
  Everywhere fun expression => ∀ library function arguments,
    expression ≠ call library function arguments

/-- Whether a function is called anywhere in the expression. -/
def hasCall : Expression → Bool
  | reference _ => false
  | literal _ _ => false
  | binary left _ right => left.hasCall || right.hasCall
  | unary _ operand => operand.hasCall
  | call _ _ _ => true
  | cell _ index => index.hasCall

theorem callFree_iff : (expression : Expression) →
    (expression.CallFree ↔ expression.hasCall = false)
  | reference _ => iff_of_true ⟨nofun, nofun⟩ rfl
  | literal _ _ => iff_of_true ⟨nofun, nofun⟩ rfl
  | binary left operator right => by
      rw [hasCall, Bool.or_eq_false_iff, ← callFree_iff left, ← callFree_iff right]
      constructor
      · intro h
        obtain ⟨hleft, hright⟩ := List.forall_mem_cons.1 h.inside
        exact ⟨hleft, List.forall_mem_singleton.1 hright⟩
      · rintro ⟨hleft, hright⟩
        exact ⟨nofun, List.forall_mem_cons.2 ⟨hleft, List.forall_mem_singleton.2 hright⟩⟩
  | unary operator operand => by
      rw [hasCall, ← callFree_iff operand]
      constructor
      · intro h
        exact List.forall_mem_singleton.1 h.inside
      · intro hoperand
        exact ⟨nofun, List.forall_mem_singleton.2 hoperand⟩
  | call library function arguments =>
      iff_of_false (fun h => h.here library function arguments rfl) nofun
  | cell array index => by
      rw [hasCall, ← callFree_iff index]
      constructor
      · intro h
        exact List.forall_mem_singleton.1 h.inside
      · intro hindex
        exact ⟨nofun, List.forall_mem_singleton.2 hindex⟩

instance (expression : Expression) : Decidable expression.CallFree :=
  decidable_of_iff _ expression.callFree_iff.symm

end Expression

/-! ## Statements -/

/-- The expressions of a pulse. -/
def Pulse.expressions : Pulse → List Expression
  | named _ => []
  | ramp slope => [slope]

/-- The expression that is read as a target. -/
def Target.expression : Target → Expression
  | reference name => .reference name
  | cell array index => .cell array index

/-- The expressions of a target. -/
def Target.expressions : Target → List Expression
  | reference _ => []
  | cell _ index => [index]

namespace Statement

/-- The expressions of a statement itself, without those of the statements inside it. -/
def expressions : Statement → List Expression
  | play pulse _ amplitude duration =>
    pulse.expressions ++ amplitude.toList ++ duration.toList
  | measure _ _ => []
  | align _ => []
  | assign target value => target.expressions ++ [value]
  | branch condition _ elseIfs _ => condition :: elseIfs.map Prod.fst
  | resetPhase _ => []
  | rampToZero _ duration => duration.toList
  | wait duration _ => [duration]
  | frameRotation angle _ => [angle]
  | loop _ condition _ _ => [condition]
  | switch subject cases _ => subject :: cases.map Prod.fst
  | strictTiming _ => []
  | save value _ => [value]

/-- The statements directly inside a statement. -/
def inner : Statement → List Statement
  | branch _ body elseIfs elseBody => body ++ elseIfs.flatMap Prod.snd ++ elseBody.getD []
  | loop init _ update body => init ++ update ++ body
  | switch _ cases default => cases.flatMap Prod.snd ++ default.getD []
  | strictTiming body => body
  | _ => []

/-- A statement without blocks of statements. -/
def IsBasic : Statement → Prop
  | branch .. | loop .. | switch .. | strictTiming _ => False
  | _ => True

theorem subset_flatMap_snd {branches : List (Expression × List Statement)}
    {branch : Expression × List Statement} (h : branch ∈ branches) :
    branch.2 ⊆ branches.flatMap Prod.snd :=
  fun _ hmem => List.mem_flatMap.2 ⟨branch, h, hmem⟩

/-- A property of a statement and of all statements inside it. -/
inductive Everywhere (P : Statement → Prop) : Statement → Prop where
  | intro {statement : Statement} (here : P statement)
    (inside : ∀ inner ∈ statement.inner, Everywhere P inner) : Everywhere P statement

variable {P : Statement → Prop} {statement : Statement}

theorem Everywhere.here (h : statement.Everywhere P) : P statement := by
  cases h with
  | intro here inside => exact here

theorem Everywhere.inside (h : statement.Everywhere P) :
    ∀ inner ∈ statement.inner, inner.Everywhere P := by
  cases h with
  | intro here inside => exact inside

theorem everywhere_of_isBasic (hbasic : statement.IsBasic) (h : P statement) :
    statement.Everywhere P := by
  refine ⟨h, fun inner hinner => ?_⟩
  cases statement with
  | branch | loop | switch | strictTiming => exact hbasic.elim
  | _ => exact absurd hinner List.not_mem_nil

theorem Everywhere.and {Q : Statement → Prop} (h : statement.Everywhere P)
    (h' : statement.Everywhere Q) : statement.Everywhere fun inner => P inner ∧ Q inner := by
  induction h with
  | intro here _ ih => exact ⟨⟨here, h'.here⟩, fun inner hinner => ih inner hinner
      (h'.inside inner hinner)⟩

theorem sizeOf_flatMap_snd {a : Statement} {branches : List (Expression × List Statement)}
    (h : a ∈ branches.flatMap Prod.snd) : sizeOf a < sizeOf branches := by
  obtain ⟨⟨guard, body⟩, hbranch, ha⟩ := List.mem_flatMap.1 h
  have hbody : sizeOf a < sizeOf body := List.sizeOf_lt_of_mem ha
  have hpair := List.sizeOf_lt_of_mem hbranch
  simp only [Prod.mk.sizeOf_spec] at hpair
  omega

theorem sizeOf_getD {a : Statement} {body : Option (List Statement)} (h : a ∈ body.getD []) :
    sizeOf a < sizeOf body := by
  cases body with
  | none => simp at h
  | some block =>
      have hblock := List.sizeOf_lt_of_mem (show a ∈ block from h)
      simp only [Option.some.sizeOf_spec]
      omega

theorem sizeOf_inner {a statement : Statement} (h : a ∈ statement.inner) :
    sizeOf a < sizeOf statement := by
  cases statement with
  | branch guard body elseIfs elseBody =>
      simp only [branch.sizeOf_spec]
      rcases List.mem_append.1 h with h | helse
      · rcases List.mem_append.1 h with hbody | hbodies
        · have := List.sizeOf_lt_of_mem hbody
          omega
        · have := sizeOf_flatMap_snd hbodies
          omega
      · have := sizeOf_getD helse
        omega
  | loop init guard update body =>
      simp only [loop.sizeOf_spec]
      rcases List.mem_append.1 h with h | hbody
      · rcases List.mem_append.1 h with hinit | hupdate
        · have := List.sizeOf_lt_of_mem hinit
          omega
        · have := List.sizeOf_lt_of_mem hupdate
          omega
      · have := List.sizeOf_lt_of_mem hbody
        omega
  | switch subject cases default =>
      simp only [switch.sizeOf_spec]
      rcases List.mem_append.1 h with hcases | hdefault
      · have := sizeOf_flatMap_snd hcases
        omega
      · have := sizeOf_getD hdefault
        omega
  | strictTiming body =>
      have := List.sizeOf_lt_of_mem (show a ∈ body from h)
      simp only [strictTiming.sizeOf_spec]
      omega
  | _ => exact absurd h List.not_mem_nil

/-- What a statement has if the statements inside it do, every statement has. -/
theorem inner_induction (h : ∀ statement, (∀ inner ∈ statement.inner, P inner) → P statement)
    (statement : Statement) : P statement :=
  h statement fun inner _ => inner_induction h inner
termination_by sizeOf statement
decreasing_by exact sizeOf_inner ‹inner ∈ statement.inner›

/-- What every statement has, it has everywhere. -/
theorem everywhere_of_forall (h : ∀ statement, P statement) (statement : Statement) :
    statement.Everywhere P :=
  inner_induction (fun statement inside => ⟨h statement, inside⟩) statement

/-- Every literal of the statement and of those inside it can be read. -/
def HasReadableLiterals : Statement → Prop :=
  Everywhere fun statement => ∀ e ∈ statement.expressions, e.HasReadableLiterals

end Statement

/-! ## Programs -/

namespace Definition

/-- A definition that has been made from a declaration, with values cast to the declared type. -/
inductive Made : Definition → Prop where
  | scalar (name : String) (type : ScalarType) (value : Option Value) :
    Made (.ofScalar name type value)
  | array (name : String) (type : ScalarType) (values : List Value) (size : Nat) :
    Made (.ofArray name type values size)

/-- The size of an array is not that of a scalar, is within the limit and is matched by the initial
    values, if there are any. -/
def IsSized : Definition → Prop
  | scalar .. => True
  | array _ _ values size =>
    size ≠ 1 ∧ size ≤ maxArraySize ∧ (values = [] ∨ values.length = size)

end Definition

/-- Every literal of the program can be read as a value of the type that it is to have. -/
def Program.HasReadableLiterals (program : Program) : Prop :=
  ∀ statement ∈ program.body, statement.HasReadableLiterals

end PulseTimeline
