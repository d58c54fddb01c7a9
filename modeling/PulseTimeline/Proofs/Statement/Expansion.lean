import PulseTimeline.Proofs.Syntax

set_option autoImplicit false

/-! # What derived statements stand for

Some statements can be said by others. A block under strict timing stands for its statements in its
place, further conditions stand for conditions in the else body, and a switch stands for comparisons
of its subject with the values of its cases. The subject is evaluated again in every comparison, so
this is only done if it calls no function; a switch without cases has nothing to compare and stays.
The expansion of a program does all this at every depth, and leaves none of it. -/

namespace PulseTimeline

namespace Statement

/-! ## One statement -/

/-- Guarded blocks that are tried one after the other, each in the else body of the one before. -/
def nested : List (Expression × List Statement) → Option (List Statement) →
    Option (List Statement)
  | [], otherwise => otherwise
  | (guard, body) :: rest, otherwise => some [branch guard body [] (nested rest otherwise)]

/-- A branch without further conditions: they are nested in its else body. -/
def unchained : Statement → Statement
  | branch guard body elseIfs elseBody => branch guard body [] (nested elseIfs elseBody)
  | other => other

/-- The blocks of cases, each under a comparison of the subject with the value of the case. -/
def comparisons (subject : Expression) (cases : List (Expression × List Statement)) :
    List (Expression × List Statement) :=
  cases.map fun case => (.binary subject .equal case.1, case.2)

/-- A switch as a branch on comparisons, if it has cases and its subject calls no function. -/
def compared (subject : Expression) (default : Option (List Statement)) :
    List (Expression × List Statement) → Statement
  | [] => switch subject [] default
  | (value, body) :: rest =>
    if subject.CallFree then
      branch (.binary subject .equal value) body (comparisons subject rest) default
    else switch subject ((value, body) :: rest) default

/-! ## Every depth -/

mutual

/-- The statements that a statement stands for. -/
def expanded : Statement → List Statement
  | branch guard body elseIfs elseBody =>
    [unchained (branch guard (blockExpanded body) (guardedExpanded elseIfs)
      (optionalExpanded elseBody))]
  | loop init guard update body =>
    [loop (blockExpanded init) guard (blockExpanded update) (blockExpanded body)]
  | switch subject cases default =>
    [unchained (compared subject (optionalExpanded default) (guardedExpanded cases))]
  | strictTiming body => blockExpanded body
  | other => [other]

/-- The statements that a block stands for. -/
def blockExpanded : List Statement → List Statement
  | [] => []
  | first :: rest => first.expanded ++ blockExpanded rest

/-- Blocks under expressions of their own, with what each block stands for. -/
def guardedExpanded : List (Expression × List Statement) → List (Expression × List Statement)
  | [] => []
  | (guard, body) :: rest => (guard, blockExpanded body) :: guardedExpanded rest

/-- What a block that may be absent stands for. -/
def optionalExpanded : Option (List Statement) → Option (List Statement)
  | none => none
  | some body => some (blockExpanded body)

end

/-- A switch under strict timing is a comparison with the first value, and else with the second. -/
example (one two : Expression) :
    let x : Expression := .reference "x"
    blockExpanded [strictTiming [switch x [(one, []), (two, [])] (some [strictTiming []])]]
      = [branch (.binary x .equal one) [] []
          (some [branch (.binary x .equal two) [] [] (some [])])] := rfl

/-! ## What is left -/

/-- The statement stands for no other: it is no strict timing, has no further conditions and is no
    switch that could be compared. -/
def IsPlain : Statement → Prop
  | branch _ _ elseIfs _ => elseIfs = []
  | switch subject cases _ => subject.CallFree → cases = []
  | strictTiming _ => False
  | _ => True

/-- A block that is plain throughout. -/
abbrev PlainBlock (block : List Statement) : Prop :=
  ∀ statement ∈ block, statement.Everywhere IsPlain

end Statement

/-- The program that a program stands for. -/
def Program.expanded (program : Program) : Program :=
  ⟨Statement.blockExpanded program.body, program.definitions⟩

end PulseTimeline
