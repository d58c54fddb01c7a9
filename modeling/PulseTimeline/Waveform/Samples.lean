set_option autoImplicit false

/-! # Samples of a pulse

A pulse with the same sample throughout is kept as that sample and a count, whatever its length;
any other pulse is a list. `get?` and `quadratures` give the same view of both. -/

namespace PulseTimeline

/-- One sample of both quadratures. -/
structure IqPoint where
  i : Float
  q : Float
  deriving DecidableEq

/-- Scale both quadratures. -/
def IqPoint.scaled (point : IqPoint) (factor : Float) : IqPoint :=
  ⟨point.i * factor, point.q * factor⟩

/-- The samples of a pulse. -/
inductive Samples where
  | flat (point : IqPoint) (count : Nat)
  | listed (points : List IqPoint)
  deriving DecidableEq

namespace Samples

/-- How many samples there are. -/
def count : Samples → Nat
  | flat _ n => n
  | listed points => points.length

/-- The sample at a position. -/
def get? : Samples → Nat → Option IqPoint
  | flat point n, index => if index < n then some point else none
  | listed points, index => points[index]?

/-- Scale every sample. -/
def scaled (samples : Samples) (factor : Float) : Samples :=
  match samples with
  | flat point n => flat (point.scaled factor) n
  | listed points => listed (points.map fun point => point.scaled factor)

/-- Scale every sample if a factor is given. -/
def scaledBy (samples : Samples) (factor : Option Float) : Samples :=
  match factor with
  | some f => samples.scaled f
  | none => samples

/-- The samples of either quadrature. -/
def quadratures : Samples → List Float × List Float
  | flat point n => (List.replicate n point.i, List.replicate n point.q)
  | listed points => (points.map IqPoint.i, points.map IqPoint.q)

@[simp] theorem length_quadratures_fst (samples : Samples) :
    samples.quadratures.1.length = samples.count := by
  cases samples <;> simp [quadratures, count]

@[simp] theorem length_quadratures_snd (samples : Samples) :
    samples.quadratures.2.length = samples.count := by
  cases samples <;> simp [quadratures, count]

end Samples

end PulseTimeline
