import PulseTimeline.Json.Basic
import PulseTimeline.Proofs.Syntax

set_option autoImplicit false

/-! # How programs are spelled

The raw tree of a program, as the front end writes it: statements and expressions are mappings with
their kind as the only key, operators go by their mnemonics, what a statement does not have is left
out, and initial values are written as texts. Where the vocabulary leaves a choice, between a list
of elements and a single one, `alone` makes it for every statement; keys stand in their order. -/

namespace PulseTimeline

namespace Json

/-- The members that are there. -/
def present (fields : List (String × Option Json)) : List (String × Json) :=
  fields.filterMap fun field => field.2.map (Prod.mk field.1)

/-- The object with the given members, the absent ones left out. -/
def record (fields : List (String × Option Json)) : Json := .object (present fields)

/-- The object with a single member, which is a record. -/
def entry (kind : String) (fields : List (String × Option Json)) : Json :=
  .object [(kind, record fields)]

/-- The mapping with a name. -/
def named (name : String) : Json := record [("name", some (.text name))]

/-- The names of elements, or the name of the only one if it may stand alone. -/
def elements (alone : Bool) (names : List String) : Json :=
  match alone, names with
  | true, [name] => named name
  | _, _ => .array (names.map named)

/-- The mapping with the statements of a block. -/
def block (statements : List Json) : Json := record [("statements", some (.array statements))]

end Json

/-! ## Expressions -/

namespace Expression

mutual

/-- The tree of an expression. -/
def toTree : Expression → Json
  | reference name => .object [("variable", .named name)]
  | literal text type =>
    .entry "literal" [("type", type.map fun t => .text t.text), ("value", some (.text text))]
  | binary left operator right =>
    .entry "binaryOperation"
      [("left", some left.toTree), ("op", some (.text operator.names.mnemonic)),
        ("right", some right.toTree)]
  | unary operator operand =>
    .entry "unaryOperation"
      [("op", some (.text operator.names.mnemonic)), ("value", some operand.toTree)]
  | call library function arguments =>
    .entry "libFunction"
      [("arguments", some (.array (toTrees arguments))), ("functionName", some (.text function)),
        ("libraryName", some (.text library))]
  | cell array index =>
    .entry "arrayCell" [("arrayVar", some (.named array)), ("index", some index.toTree)]

/-- The trees of expressions. -/
def toTrees : List Expression → List Json
  | [] => []
  | first :: rest => first.toTree :: toTrees rest

end

theorem toTrees_eq_map (l : List Expression) : toTrees l = l.map toTree := by
  induction l with
  | nil => rfl
  | cons first rest ih => rw [toTrees, ih, List.map_cons]

theorem toTree_ne_null (e : Expression) : e.toTree ≠ .null := by
  cases e <;> exact nofun

end Expression

/-! ## Statements -/

/-- The field of a named pulse. -/
def Pulse.nameTree? : Pulse → Option Json
  | named operation => some (.named operation)
  | ramp _ => none

/-- The field of a ramp. -/
def Pulse.rampTree? : Pulse → Option Json
  | named _ => none
  | ramp slope => some (.record [("value", some slope.toTree)])

/-- The tree of the factor of an amplitude. -/
def Expression.toAmplitude (factor : Expression) : Json := .record [("v0", some factor.toTree)]

namespace Statement

mutual

/-- The tree of a statement. -/
def toTree (alone : Statement → Bool) : Statement → Json
  | play pulse element amplitude duration =>
    .entry "play"
      [("amp", amplitude.map Expression.toAmplitude), ("duration", duration.map Expression.toTree),
        ("namedPulse", pulse.nameTree?), ("qe", some (.named element)),
        ("rampPulse", pulse.rampTree?)]
  | measure element operation =>
    .entry "measure" [("pulse", operation.map .named), ("qe", some (.named element))]
  | align elements => .entry "align" [("qe", some (.elements false elements))]
  | assign target value =>
    .entry "assign"
      [("expression", some value.toTree), ("target", some target.expression.toTree)]
  | branch condition body elseIfs elseBody =>
    .entry "if"
      [("body", some (.block (toTrees alone body))), ("condition", some condition.toTree),
        ("else", optionalTree alone elseBody),
        ("elseifs", some (.array (guardedTrees alone "condition" elseIfs)))]
  | resetPhase elements =>
    .entry "resetPhase" [("qe", some (.elements (alone (resetPhase elements)) elements))]
  | rampToZero element duration =>
    .entry "rampToZero"
      [("duration", duration.map Expression.toTree), ("qe", some (.named element))]
  | wait duration elements =>
    .entry "wait" [("qe", some (.elements false elements)), ("time", some duration.toTree)]
  | frameRotation angle elements =>
    .entry "zRotation"
      [("qe", some (.elements (alone (frameRotation angle elements)) elements)),
        ("value", some angle.toTree)]
  | loop init condition update body =>
    .entry "for"
      [("body", some (.block (toTrees alone body))), ("condition", some condition.toTree),
        ("init", some (.block (toTrees alone init))),
        ("update", some (.block (toTrees alone update)))]
  | switch subject cases default =>
    .entry "switch"
      [("cases", some (.array (guardedTrees alone "value" cases))),
        ("default", optionalTree alone default), ("expression", some subject.toTree)]
  | strictTiming body => .entry "strictTiming" [("body", some (.block (toTrees alone body)))]
  | save value stream => .entry "save" [("source", some value.toTree), ("tag", some (.text stream))]

/-- The trees of statements. -/
def toTrees (alone : Statement → Bool) : List Statement → List Json
  | [] => []
  | first :: rest => first.toTree alone :: toTrees alone rest

/-- The tree of a block that may be absent. -/
def optionalTree (alone : Statement → Bool) : Option (List Statement) → Option Json
  | none => none
  | some body => some (.block (toTrees alone body))

/-- The trees of blocks under expressions of their own. -/
def guardedTrees (alone : Statement → Bool) (guard : String) :
    List (Expression × List Statement) → List Json
  | [] => []
  | (condition, body) :: rest =>
    .record [("body", some (.block (toTrees alone body))), (guard, some condition.toTree)] ::
      guardedTrees alone guard rest

end

/-- The tree of a block. -/
def blockTree (alone : Statement → Bool) (body : List Statement) : Json :=
  .block (toTrees alone body)

/-- The tree of a block under an expression of its own. -/
def guardedTree (alone : Statement → Bool) (guard : String)
    (branch : Expression × List Statement) : Json :=
  .record [("body", some (blockTree alone branch.2)), (guard, some branch.1.toTree)]

variable (alone : Statement → Bool)

theorem toTrees_eq_map (body : List Statement) : toTrees alone body = body.map (toTree alone) := by
  induction body with
  | nil => rfl
  | cons first rest ih => rw [toTrees, ih, List.map_cons]

theorem optionalTree_eq_map (body : Option (List Statement)) :
    optionalTree alone body = body.map (blockTree alone) := by
  cases body <;> rfl

theorem guardedTrees_eq_map (guard : String) (branches : List (Expression × List Statement)) :
    guardedTrees alone guard branches = branches.map (guardedTree alone guard) := by
  induction branches with
  | nil => rfl
  | cons first rest ih => rw [guardedTrees, ih, List.map_cons, guardedTree, blockTree]

end Statement

/-! ## Programs -/

namespace Definition

/-- The values that are written in a declaration. -/
def values : Definition → List Value
  | scalar _ _ value => [value]
  | array _ _ values _ => values

/-- The tree of an initial value. -/
def valueTree (value : Value) : Json := .record [("value", some (.text value.text))]

/-- The tree of a declaration. A scalar has no size, and an array without initial values no list
    of them. -/
def toTree : Definition → Json
  | scalar name type value =>
    .record
      [("name", some (.text name)), ("type", some (.text type.text)),
        ("value", some (.array [valueTree value]))]
  | array name type values size =>
    .record
      [("name", some (.text name)), ("size", some (.int size)), ("type", some (.text type.text)),
        ("value", if values.isEmpty then none else some (.array (values.map valueTree)))]

end Definition

/-- The tree of a program. -/
def Program.toTree (alone : Statement → Bool) (program : Program) : Json :=
  .record
    [("body", some (Statement.blockTree alone program.body)),
      ("variables", some (.array (program.definitions.map Definition.toTree)))]

end PulseTimeline
