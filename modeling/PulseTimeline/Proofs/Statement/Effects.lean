import PulseTimeline.Configuration.Setup
import PulseTimeline.Proofs.Syntax

set_option autoImplicit false

/-! # What statements may change

Which variables, streams and timelines a statement can change is read off its text and the qubit
map: it assigns to the variable of its target, saves to the stream that it names, and reaches the
elements that it names. A measurement also reaches those that share a qubit with its element, and an
empty list of elements to align or to wait stands for whatever has been touched. All of this is said
of a statement itself, not of the statements inside it. -/

namespace PulseTimeline

/-- The variable that an assignment to the target changes. -/
def Target.name : Target → String
  | reference name => name
  | cell array _ => array

namespace Statement

/-- The statement assigns to the variable, or to a cell of it. -/
def Assigns (statement : Statement) (name : String) : Prop :=
  match statement with
  | assign target _ => target.name = name
  | _ => False

/-- The statement saves to the stream. -/
def Saves (statement : Statement) (stream : String) : Prop :=
  match statement with
  | save _ name => name = stream
  | _ => False

/-- The elements that a statement names. -/
def elements : Statement → List String
  | play _ element _ _ => [element]
  | measure element _ => [element]
  | align elements => elements
  | resetPhase elements => elements
  | rampToZero element _ => [element]
  | wait _ elements => elements
  | frameRotation _ elements => elements
  | _ => []

/-- The statement is about all elements that have been touched. -/
def IsUniversal : Statement → Prop
  | align elements => elements = []
  | wait _ elements => elements = []
  | _ => False

/-- The statement measures an element that shares a qubit with the given one. -/
def MeasuresNear (statement : Statement) (setup : Setup) (channel : String) : Prop :=
  match statement with
  | measure element _ => channel ∈ setup.qubits.sharing element
  | _ => False

/-- The statement may change the timeline of an element, since it is about all elements, names that
    one or measures near it. -/
def Reaches (statement : Statement) (setup : Setup) (channel : String) : Prop :=
  statement.IsUniversal ∨ channel ∈ statement.elements ∨ statement.MeasuresNear setup channel

theorem reaches_elements (statement : Statement) (setup : Setup) :
    ∀ name ∈ statement.elements, statement.Reaches setup name :=
  fun _ hname => Or.inr (Or.inl hname)

theorem not_reaches_iff (statement : Statement) (setup : Setup) (channel : String) :
    ¬ statement.Reaches setup channel ↔ ¬ statement.IsUniversal
      ∧ channel ∉ statement.elements ∧ ¬ statement.MeasuresNear setup channel := by
  rw [Reaches, not_or, not_or]

end Statement

end PulseTimeline
