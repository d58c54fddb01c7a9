import Mathlib.Algebra.BigOperators.Group.List.Basic
import Mathlib.Algebra.GroupWithZero.Nat
import PulseTimeline.Timeline.Basic

set_option autoImplicit false

/-! # Durations as sums

The duration of a list of instructions is an early-exit fold of bounded additions. It is the sum of
the single durations wherever that sum is a duration, and nothing otherwise. On this view rest all
bounds on cursors and all comparisons of instants. -/

namespace PulseTimeline

/-- How many samples instructions take together, however many that are. -/
def sampleCount (instructions : List Instruction) : Nat :=
  (instructions.map Instruction.duration).sum

@[simp] theorem sampleCount_append (a b : List Instruction) :
    sampleCount (a ++ b) = sampleCount a + sampleCount b := by
  simp [sampleCount]

@[simp] theorem sampleCount_singleton (instruction : Instruction) :
    sampleCount [instruction] = instruction.duration := by
  simp [sampleCount]

theorem foldlM_addDurations? (instructions : List Instruction) (total : Nat)
    (h : total ≤ maxDuration) :
    instructions.foldlM (fun total instruction => addDurations? total instruction.duration) total
      = if total + sampleCount instructions ≤ maxDuration
        then some (total + sampleCount instructions) else none := by
  induction instructions generalizing total with
  | nil => simp [sampleCount, h]
  | cons first rest ih =>
      have hsum : sampleCount (first :: rest) = first.duration + sampleCount rest := by
        simp [sampleCount]
      rw [List.foldlM_cons, hsum, addDurations?]
      split
      · next hfits =>
          rw [Option.bind_eq_bind, Option.bind_some, ih _ hfits, Nat.add_assoc]
      · next hlong =>
          have hnot : ¬ total + (first.duration + sampleCount rest) ≤ maxDuration := by omega
          rw [if_neg hnot]
          rfl

theorem totalDuration?_eq (instructions : List Instruction) :
    totalDuration? instructions
      = if sampleCount instructions ≤ maxDuration then some (sampleCount instructions)
        else none := by
  have h := foldlM_addDurations? instructions 0 (Nat.zero_le _)
  rwa [Nat.zero_add] at h

theorem totalDuration?_eq_some_iff (instructions : List Instruction) (total : Nat) :
    totalDuration? instructions = some total
      ↔ total ≤ maxDuration ∧ sampleCount instructions = total := by
  rw [totalDuration?_eq]
  split
  · next h =>
      constructor
      · intro heq
        cases heq
        exact ⟨h, rfl⟩
      · exact fun ⟨_, heq⟩ => by rw [heq]
  · next h =>
      constructor
      · exact nofun
      · exact fun ⟨hle, heq⟩ => absurd (heq ▸ hle) h

/-- One more instruction adds its own duration. -/
theorem totalDuration?_append_singleton (instructions : List Instruction)
    (instruction : Instruction) {total : Nat} (h : totalDuration? instructions = some total)
    (hfits : total + instruction.duration ≤ maxDuration) :
    totalDuration? (instructions ++ [instruction]) = some (total + instruction.duration) := by
  have hcount := ((totalDuration?_eq_some_iff instructions total).1 h).2
  exact (totalDuration?_eq_some_iff _ _).2 ⟨hfits, by simp [hcount]⟩

namespace Segment

/-- The instructions that give a segment its duration: those of the in-phase signal, if there are
    two signals. -/
def leading : Segment → List Instruction
  | single instructions => instructions
  | iq i _ => i

theorem duration?_eq (segment : Segment) : segment.duration? = totalDuration? segment.leading := by
  cases segment <;> rfl

theorem duration_eq (segment : Segment) :
    segment.duration = min (sampleCount segment.leading) maxDuration := by
  rw [duration, duration?_eq, totalDuration?_eq]
  split
  · next h => rw [Option.getD_some, Nat.min_eq_left h]
  · next h => rw [Option.getD_none, Nat.min_eq_right (by omega)]

theorem duration_le (segment : Segment) : segment.duration ≤ maxDuration := by
  rw [duration_eq]
  exact Nat.min_le_right _ _

theorem leading_push (segment : Segment) (instruction : Instruction) :
    (segment.push instruction).leading = segment.leading ++ [instruction] := by
  cases segment <;> rfl

theorem duration_of_duration? {segment : Segment} {total : Nat}
    (h : segment.duration? = some total) : segment.duration = total := by
  rw [duration, h, Option.getD_some]

end Segment

namespace Timeline

/-- How long the closed segments last, one by one. -/
def closedDurations (timeline : Timeline) : List Nat := timeline.closed.map Segment.duration

/-- The instant at which the current segment begins: all that the closed segments last. -/
def beginning (timeline : Timeline) : Nat := timeline.closedDurations.sum

/-- The instant that a timeline has come to: all that its segments last. -/
def endTime (timeline : Timeline) : Nat := (timeline.segments.map Segment.duration).sum

theorem endTime_eq (timeline : Timeline) :
    timeline.endTime = timeline.beginning + timeline.current.duration := by
  simp [endTime, beginning, closedDurations, segments]

end Timeline

end PulseTimeline
