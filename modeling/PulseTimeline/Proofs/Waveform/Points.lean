import PulseTimeline.Waveform.Resolve

set_option autoImplicit false

/-! # Samples as points

Whether samples are kept as one point and a count or as a list of points, they stand for a list of
points, and every view of them is a view of this list. Samples that stand for the same points cannot
be told apart, however often they are scaled. -/

namespace PulseTimeline

namespace Samples

/-- The points that the samples stand for. -/
def points : Samples → List IqPoint
  | flat point n => List.replicate n point
  | listed points => points

variable {a b : Samples}

/-! ## Views -/

@[simp] theorem length_points (samples : Samples) : samples.points.length = samples.count := by
  cases samples with
  | flat point n => exact List.length_replicate
  | listed points => rfl

theorem get?_eq (samples : Samples) (index : Nat) :
    samples.get? index = samples.points[index]? := by
  cases samples with
  | flat point n => rw [points, List.getElem?_replicate, get?]
  | listed points => rfl

theorem quadratures_eq (samples : Samples) :
    samples.quadratures = (samples.points.map IqPoint.i, samples.points.map IqPoint.q) := by
  cases samples with
  | flat point n => rw [points, List.map_replicate, List.map_replicate, quadratures]
  | listed points => rfl

/-- No view tells the samples apart, and there is none behind the last one. -/
structure Alike (a b : Samples) : Prop where
  count : a.count = b.count
  get : ∀ index, a.get? index = b.get? index
  behind : ∀ index, a.count ≤ index → a.get? index = none
  quadratures : a.quadratures = b.quadratures

theorem alike_of_points (h : a.points = b.points) : a.Alike b where
  count := by rw [← length_points, h, length_points]
  get index := by rw [get?_eq, h, get?_eq]
  behind index hindex := by
    rw [get?_eq]
    exact List.getElem?_eq_none (by rwa [length_points])
  quadratures := by rw [quadratures_eq, h, quadratures_eq]

/-! ## Scaling -/

/-- Each quadrature of each point is multiplied by the factor. -/
theorem points_scaled (samples : Samples) (factor : Float) :
    (samples.scaled factor).points
      = samples.points.map fun point => ⟨point.i * factor, point.q * factor⟩ := by
  cases samples with
  | flat point n => rw [scaled, points, points, List.map_replicate, IqPoint.scaled]
  | listed points => rfl

theorem points_scaledBy (samples : Samples) (factor : Option Float) :
    (samples.scaledBy factor).points
      = samples.points.map fun point => factor.elim point fun a => ⟨point.i * a, point.q * a⟩ := by
  cases factor with
  | none => exact (List.map_id samples.points).symm
  | some f => exact points_scaled samples f

/-- Scale once for each factor. -/
def scaledAll (samples : Samples) (factors : List Float) : Samples := factors.foldl scaled samples

theorem points_scaledAll (h : a.points = b.points) (factors : List Float) :
    (a.scaledAll factors).points = (b.scaledAll factors).points := by
  induction factors generalizing a b with
  | nil => exact h
  | cons factor rest ih => exact ih (by rw [points_scaled, h, points_scaled])

/-! ## Samples of waveforms -/

/-- Two constants are kept as one point, which is the point at every index. -/
theorem points_ofWaveforms (length : Nat) (i q : Waveform) :
    (ofWaveforms length i q).points
      = (List.range length).map fun index => ⟨i.sample index, q.sample index⟩ := by
  unfold ofWaveforms
  split
  · next x y =>
      show List.replicate length _ = (List.range length).map fun _ => (⟨x, y⟩ : IqPoint)
      rw [List.map_const', List.length_range]
  · rfl

end Samples

end PulseTimeline
