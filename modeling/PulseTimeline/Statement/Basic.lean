import PulseTimeline.Expression.Basic

set_option autoImplicit false

/-! # Statements

The syntax of statements. Elements are the named inputs of the hardware; blocks of statements nest
without bound. -/

namespace PulseTimeline

/-- What is played: an operation of the element, or a ramp of the given slope per sample. -/
inductive Pulse where
  | named (operation : String)
  | ramp (slope : Expression)

/-- The name under which a pulse is recorded. -/
def Pulse.name : Pulse → String
  | named operation => operation
  | ramp _ => "ramp"

/-- Where a value is assigned to. -/
inductive Target where
  | reference (name : String)
  | cell (array : String) (index : Expression)

/-- The surface text of a target. -/
def Target.text : Target → String
  | reference name => name
  | cell array index => array ++ "[" ++ index.text ++ "]"

/-- A statement of a program. -/
inductive Statement where
  | play (pulse : Pulse) (element : String) (amplitude duration : Option Expression)
  | measure (element : String) (operation : Option String)
  | align (elements : List String)
  | assign (target : Target) (value : Expression)
  /-- A condition with its body, further conditions with theirs, and what else to do. -/
  | branch (condition : Expression) (body : List Statement)
      (elseIfs : List (Expression × List Statement)) (elseBody : Option (List Statement))
  | resetPhase (elements : List String)
  | rampToZero (element : String) (duration : Option Expression)
  | wait (duration : Expression) (elements : List String)
  | frameRotation (angle : Expression) (elements : List String)
  | loop (init : List Statement) (condition : Expression) (update body : List Statement)
  | switch (subject : Expression) (cases : List (Expression × List Statement))
      (default : Option (List Statement))
  | strictTiming (body : List Statement)
  | save (value : Expression) (stream : String)

namespace Statement

/-- The name of the kind of a statement. -/
def kind : Statement → String
  | play .. => "play"
  | measure .. => "measure"
  | align .. => "align"
  | assign .. => "assign"
  | branch .. => "if"
  | resetPhase .. => "reset_phase"
  | rampToZero .. => "ramp_to_zero"
  | wait .. => "wait"
  | frameRotation .. => "frame_rotation"
  | loop .. => "for"
  | switch .. => "switch"
  | strictTiming .. => "strict_timing"
  | save .. => "save"

end Statement

end PulseTimeline
