set_option autoImplicit false

/-! # Phases

Angles come in cycles and in radians, kept apart by their types. -/

namespace PulseTimeline

/-- An angle in full turns. -/
structure Cycles where
  value : Float
  deriving DecidableEq

/-- An angle in radians. -/
structure Radians where
  value : Float
  deriving DecidableEq

/-- Half a turn in radians. -/
def pi : Float := 3.141592653589793

/-- A number of turns in radians. -/
def Cycles.toRadians (angle : Cycles) : Radians := ⟨angle.value * 2.0 * pi⟩

/-- Radians as a number of turns. -/
def Radians.toCycles (angle : Radians) : Cycles := ⟨angle.value / (2.0 * pi)⟩

instance : Add Radians := ⟨fun a b => ⟨a.value + b.value⟩⟩

instance : Neg Radians := ⟨fun a => ⟨-a.value⟩⟩

instance : Inhabited Radians := ⟨⟨0.0⟩⟩

end PulseTimeline
