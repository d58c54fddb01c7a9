import PulseTimeline.Statement.Basic
import PulseTimeline.Text.Quoted

set_option autoImplicit false

/-! # Rendering statements

A statement is written as lines of surface text. The lines of a block stand four spaces deeper than
its header; an empty block is written as `pass`. -/

namespace PulseTimeline.Statement

/-- The white space before a line at a depth. -/
def indent (depth : Nat) : String := String.ofList (List.replicate (4 * depth) ' ')

/-- Quoted names, separated by commas. -/
def quoted (elements : List String) : String := ", ".intercalate (elements.map Text.quote)

/-- The text of a pulse inside a play statement. -/
def pulseText : Pulse → String
  | .named operation => Text.quote operation
  | .ramp slope => "ramp(" ++ slope.text ++ ")"

/-- The text of an optional part, nothing if it is absent. -/
def optionalText (before : String) (part : Option Expression) (after : String) : String :=
  match part with
  | some e => before ++ e.text ++ after
  | none => ""

mutual

/-- The lines of a statement at a depth. The statements that start and advance a loop are written
    into its header, each as it would stand alone. -/
def lines (depth : Nat) : Statement → List String
  | play pulse element amplitude duration =>
    [indent depth ++ "play(" ++ pulseText pulse ++ optionalText " * amp(" amplitude ")" ++ ", " ++
      Text.quote element ++ optionalText ", duration=" duration "" ++ ")"]
  | measure element (some operation) =>
    [indent depth ++ "measure(" ++ Text.quote operation ++ ", " ++ Text.quote element ++ ")"]
  | measure element none => [indent depth ++ "measure(" ++ Text.quote element ++ ")"]
  | align elements => [indent depth ++ "align(" ++ quoted elements ++ ")"]
  | assign target value =>
    [indent depth ++ "assign(" ++ target.text ++ ", " ++ value.text ++ ")"]
  | branch condition body elseIfs elseBody =>
    (indent depth ++ "with if_(" ++ condition.text ++ "):") :: blockLines (depth + 1) body ++
      branchLines depth "elif_" elseIfs ++ otherwiseLines depth "else_" elseBody
  | resetPhase elements => [indent depth ++ "reset_frame(" ++ quoted elements ++ ")"]
  | rampToZero element duration =>
    [indent depth ++ "ramp_to_zero(" ++ Text.quote element ++ optionalText ", " duration "" ++ ")"]
  | wait duration elements =>
    [indent depth ++ "wait(" ++ duration.text ++ ", " ++ quoted elements ++ ")"]
  | frameRotation angle elements =>
    [indent depth ++ "frame_rotation_2pi(" ++ angle.text ++ ", " ++ quoted elements ++ ")"]
  | loop init condition update body =>
    (indent depth ++ "with for_([" ++ ", ".intercalate (texts init) ++ "], " ++ condition.text ++
      ", [" ++ ", ".intercalate (texts update) ++ "]):") :: blockLines (depth + 1) body
  | switch subject cases default =>
    (indent depth ++ "with switch_(" ++ subject.text ++ "):") ::
      branchLines (depth + 1) "case_" cases ++ otherwiseLines (depth + 1) "default_" default
  | strictTiming body => (indent depth ++ "with strict_timing_():") :: blockLines (depth + 1) body
  | save value stream =>
    [indent depth ++ "save(" ++ value.text ++ ", " ++ Text.quote stream ++ ")"]

/-- The lines of a block at a depth. -/
def blockLines (depth : Nat) : List Statement → List String
  | [] => [indent depth ++ "pass"]
  | first :: rest => lines depth first ++ moreLines depth rest

/-- The lines of the statements of a block after its first. -/
def moreLines (depth : Nat) : List Statement → List String
  | [] => []
  | first :: rest => lines depth first ++ moreLines depth rest

/-- The lines of blocks that stand under conditions of their own, each with its header. -/
def branchLines (depth : Nat) (keyword : String) :
    List (Expression × List Statement) → List String
  | [] => []
  | (condition, body) :: rest =>
    (indent depth ++ "with " ++ keyword ++ "(" ++ condition.text ++ "):") ::
      blockLines (depth + 1) body ++ branchLines depth keyword rest

/-- The lines of a block that stands under no condition, with its header; none if it is absent. -/
def otherwiseLines (depth : Nat) (keyword : String) : Option (List Statement) → List String
  | none => []
  | some body => (indent depth ++ "with " ++ keyword ++ "():") :: blockLines (depth + 1) body

/-- The texts of statements that stand alone. -/
def texts : List Statement → List String
  | [] => []
  | first :: rest => "\n".intercalate (lines 0 first) :: texts rest

end

/-- The surface text of a statement. -/
def text (statement : Statement) : String := "\n".intercalate (lines 0 statement)

end PulseTimeline.Statement
