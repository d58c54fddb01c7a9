import Mathlib.Algebra.Order.BigOperators.Group.List
import Mathlib.Algebra.Order.Group.Nat
import PulseTimeline.Proofs.Timeline.Records

set_option autoImplicit false

/-! # The instructions of timelines

All that stands in the segments of a timeline, along either signal. In a sound timeline no
instruction lasts longer than a duration can be, and calls play no pulses but their own: a pulse in
the result of a call was there before, or the call was to play it. -/

namespace PulseTimeline

theorem duration_le_sampleCount {instructions : List Instruction} {instruction : Instruction}
    (h : instruction ∈ instructions) : instruction.duration ≤ sampleCount instructions :=
  List.le_sum_of_mem (List.mem_map_of_mem h)

/-! ## Segments -/

namespace Segment

/-- All instructions of a segment, those along both signals if there are two. -/
def instructions : Segment → List Instruction
  | single instructions => instructions
  | iq i q => i ++ q

@[simp] theorem instructions_empty (kind : ChannelKind) : (empty kind).instructions = [] := by
  cases kind <;> rfl

variable {segment : Segment} {instruction : Instruction}

@[simp] theorem mem_instructions_push {added : Instruction} :
    instruction ∈ (segment.push added).instructions
      ↔ instruction ∈ segment.instructions ∨ instruction = added := by
  cases segment with
  | single instructions => simp [push, Segment.instructions]
  | iq i q =>
      simp only [push, Segment.instructions, List.mem_append, List.mem_singleton]
      tauto

/-- A segment with a single signal plays nothing. -/
theorem mem_instructions_pushPlay {operation : String} {i q : List Float}
    (h : instruction ∈ (segment.pushPlay operation i q).instructions) :
    instruction ∈ segment.instructions
      ∨ instruction = .play operation i ∨ instruction = .play operation q := by
  cases segment with
  | single instructions => exact Or.inl h
  | iq before before' =>
      simp only [pushPlay, Segment.instructions, List.mem_append, List.mem_singleton] at h ⊢
      tauto

theorem Fits.duration_le {kind : ChannelKind} (h : segment.Fits kind) :
    ∀ instruction ∈ segment.instructions, instruction.duration ≤ maxDuration := by
  cases segment with
  | single instructions =>
      obtain ⟨-, hle⟩ := h
      exact fun instruction hmem => (duration_le_sampleCount hmem).trans hle
  | iq i q =>
      obtain ⟨-, hle, hq⟩ := h
      refine List.forall_mem_append.2 ⟨fun instruction hmem => ?_, fun instruction hmem => ?_⟩
      · exact (duration_le_sampleCount hmem).trans hle
      · exact (duration_le_sampleCount hmem).trans (hq.le.trans hle)

end Segment

/-! ## Timelines -/

namespace Timeline

/-- All instructions of all segments. -/
def instructions (timeline : Timeline) : List Instruction :=
  timeline.segments.flatMap Segment.instructions

variable {timeline : Timeline}

theorem Sound.duration_le (h : timeline.Sound) :
    ∀ instruction ∈ timeline.instructions, instruction.duration ≤ maxDuration := by
  intro instruction hmem
  obtain ⟨segment, hsegment, hinside⟩ := List.mem_flatMap.1 hmem
  exact (h.fits segment hsegment).duration_le instruction hinside

theorem mem_instructions_iff {instruction : Instruction} :
    instruction ∈ timeline.instructions
      ↔ (∃ segment ∈ timeline.closed, instruction ∈ segment.instructions)
        ∨ instruction ∈ timeline.current.instructions := by
  simp [instructions, segments]

/-- A call that plays nothing leaves no pulse in the current segment that was not there. -/
theorem play_mem_currentAfter {call : Call} {operation : String} {samples : List Float}
    (h : .play operation samples ∈ (call.currentAfter timeline).instructions) :
    .play operation samples ∈ timeline.current.instructions
      ∨ ∃ i q, call = .playIq operation i q ∧ (samples = i ∨ samples = q) := by
  cases call with
  | playIq name i q =>
      rcases Segment.mem_instructions_pushPlay h with hold | hnew | hnew
      · exact Or.inl hold
      · cases hnew
        exact Or.inr ⟨samples, q, rfl, Or.inl rfl⟩
      · cases hnew
        exact Or.inr ⟨i, samples, rfl, Or.inr rfl⟩
  | delay duration =>
      simp only [Call.currentAfter] at h
      split at h
      · exact Or.inl (by simpa using h)
      · exact Or.inl h
  | _ => simp_all [Call.currentAfter]

/-- Only a call that is to play a pulse adds one. -/
theorem play_mem_instructions_result {call : Call} {operation : String} {samples : List Float}
    (h : .play operation samples ∈ (call.result timeline).instructions) :
    .play operation samples ∈ timeline.instructions
      ∨ ∃ i q, call = .playIq operation i q ∧ (samples = i ∨ samples = q) := by
  rcases mem_instructions_iff.1 h with ⟨segment, hsegment, hinside⟩ | hcurrent
  · refine Or.inl (List.mem_flatMap.2 ⟨segment, ?_, hinside⟩)
    cases call with
    | restart => exact hsegment
    | _ => exact List.mem_append_left _ hsegment
  · rcases play_mem_currentAfter hcurrent with hold | hplayed
    · exact Or.inl (mem_instructions_iff.2 (Or.inr hold))
    · exact Or.inr hplayed

end Timeline

end PulseTimeline
