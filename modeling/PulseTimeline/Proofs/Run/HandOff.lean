import PulseTimeline.Proofs.Codec.Timeline
import PulseTimeline.Proofs.Run.Conformance
import PulseTimeline.Proofs.Run.Origins

set_option autoImplicit false

/-! # What a run hands over

The timelines of a run are handed over as the text of a document. Each of them has come about by
calls on a new timeline, so it is sound, and a sound timeline is read back with the cursor that its
document leaves out. How the digits of a double are found is not looked into: they are asked to be
read as that double. -/

namespace PulseTimeline

namespace Program

variable {program : Program} {setup : Setup} {outcome : Outcome}

theorem sound_of_run (h : program.run setup = .ok outcome) (channel : String) (timeline : Timeline)
    (hfound : outcome.timelines.find? channel = some timeline) : timeline.Sound := by
  obtain ⟨kind, hreached⟩ := originated_of_run h channel timeline hfound
  exact hreached.sound

/-- **Nothing is lost on the way.** If all samples and phases in the timelines of a run are finite,
    and finite doubles are read back from their digits, then the text of the timelines is a
    document from which the very same store is read. -/
theorem timelines_survive_hand_off (hrun : program.run setup = .ok outcome)
    (hfinite : ∀ x ∈ outcome.timelines.doubles, x.isFinite = true)
    (hdigits : ∀ x ∈ outcome.timelines.doubles, x.isFinite = true →
      Json.readNumber? (Json.renderFloat x).toList = some (.float x)) :
    ∃ document, Json.read? outcome.timelines.encode.render = some document
      ∧ Store.decode document = .ok outcome.timelines := by
  have hsound := sound_of_run hrun
  have hlegible : outcome.timelines.encode.Legible :=
    Store.legible_encode hsound fun x hx => hdigits x hx (hfinite x hx)
  have hheight : outcome.timelines.encode.height ≤ Json.maxNesting :=
    outcome.timelines.height_encode_le.trans (by decide)
  exact ⟨_, Json.read?_render_eq_self hlegible hheight, Store.decode_encode hsound⟩

/-- A program that plays a pulse, turns the frame by a quarter, measures, and waits. -/
def turnedMeasurement : Program where
  body := [.play (.named "x180") "q1" none none,
    .frameRotation (.literal "0.25" (some .real)) ["q1"], .measure "q1" none,
    .wait (.literal "3" none) ["q1"]]
  definitions := []

/-- The cursor after the wait and the phase, whose digits are many, are found again. -/
theorem hand_off_of_turnedMeasurement :
    ∃ outcome document, turnedMeasurement.run Run.shortPulses = .ok outcome
      ∧ (∀ x ∈ outcome.timelines.doubles, x.isFinite = true)
      ∧ (∀ x ∈ outcome.timelines.doubles, x.isFinite = true →
        Json.readNumber? (Json.renderFloat x).toList = some (.float x))
      ∧ (outcome.timelines.find? "q1").map Timeline.cursor = some 12
      ∧ Json.read? outcome.timelines.encode.render = some document
      ∧ Store.decode document = .ok outcome.timelines := by
  have hends : (do
      let outcome ← turnedMeasurement.run Run.shortPulses
      return (outcome.timelines.doubles, (outcome.timelines.find? "q1").map Timeline.cursor))
        = .ok ([1.5707963267948966, 0.25, 0.5, 1.5707963267948966, 0.0, 0.0, 1.5707963267948966],
          some 12) := by
    decide +kernel
  obtain ⟨outcome, hrun, hends⟩ := except_bind_eq_ok.1 hends
  obtain ⟨hdoubles, hcursor⟩ := Prod.mk.inj (Except.ok.inj hends)
  have hfinite : ∀ x ∈ outcome.timelines.doubles, x.isFinite = true := by
    rw [hdoubles]
    decide
  have hdigits : ∀ x ∈ outcome.timelines.doubles, x.isFinite = true →
      Json.readNumber? (Json.renderFloat x).toList = some (.float x) := by
    intro x hx _
    simp only [hdoubles, List.mem_cons, List.not_mem_nil, or_false] at hx
    rcases hx with rfl | rfl | rfl | rfl | rfl | rfl | rfl <;> rfl
  obtain ⟨document, hread, hdecoded⟩ := timelines_survive_hand_off hrun hfinite hdigits
  exact ⟨outcome, document, hrun, hfinite, hdigits, hcursor, hread, hdecoded⟩

end Program

end PulseTimeline
