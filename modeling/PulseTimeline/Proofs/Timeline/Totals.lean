import PulseTimeline.Proofs.Timeline.Calls
import PulseTimeline.Proofs.Timeline.Duration

set_option autoImplicit false

/-! # Exact totals

The total of a list of instructions can be had in two ways: all at once, as a sum, or along the way,
as a cursor that moves on by one instruction after the other. Both come to the same value, and both
give up at the same lists, those whose sum is no duration; so neither depends on the order. -/

namespace PulseTimeline

variable {instructions others : List Instruction}

/-! ## All at once -/

theorem sampleCount_perm (h : instructions.Perm others) :
    sampleCount instructions = sampleCount others :=
  (h.map Instruction.duration).sum_eq

theorem totalDuration?_perm (h : instructions.Perm others) :
    totalDuration? instructions = totalDuration? others := by
  rw [totalDuration?_eq, totalDuration?_eq, sampleCount_perm h]

/-! ## Along the way -/

/-- The total of a longer list goes on from the total of the shorter one, if that has one. -/
theorem totalDuration?_concat (instructions : List Instruction) (instruction : Instruction) :
    totalDuration? (instructions ++ [instruction])
      = (totalDuration? instructions).bind fun total =>
        addDurations? total instruction.duration := by
  rw [totalDuration?, List.foldlM_append]
  simp only [List.foldlM_cons, List.foldlM_nil, bind_pure]
  rfl

namespace Timeline

/-- A cursor that has come to the total of a list goes on to that of the longer list. -/
theorem run_advance_of_total {timeline : Timeline}
    (h : totalDuration? instructions = some timeline.cursor) (instruction : Instruction) :
    (advance instruction.duration).run timeline
      = match totalDuration? (instructions ++ [instruction]) with
        | some total => .ok () { timeline with cursor := total }
        | none => .error (.durationOverflow timeline.channel) timeline := by
  rw [totalDuration?_concat, h, Option.bind_some]
  rfl

end Timeline

/-- **Total durations are exact.** A list of instructions has a total if its sum is a duration, and
    then that is the total, in whatever order they stand; a segment lasts as long as the sum of its
    leading instructions, up to the greatest duration. With one more instruction a list has a total
    exactly if a cursor at its own total can move on by that instruction, which is to the same
    value; a list without a total gets none. -/
theorem totals_are_exact :
    (∀ instructions : List Instruction, totalDuration? instructions
      = if sampleCount instructions ≤ maxDuration then some (sampleCount instructions) else none)
    ∧ (∀ instructions others : List Instruction, instructions.Perm others →
      totalDuration? instructions = totalDuration? others)
    ∧ (∀ instructions : List Instruction,
      (Segment.single instructions).duration = min (sampleCount instructions) maxDuration)
    ∧ (∀ i q : List Instruction, (Segment.iq i q).duration = min (sampleCount i) maxDuration)
    ∧ ∀ (instructions : List Instruction) (instruction : Instruction),
      (totalDuration? instructions = none →
        totalDuration? (instructions ++ [instruction]) = none)
      ∧ ∀ timeline : Timeline, totalDuration? instructions = some timeline.cursor →
        (Timeline.advance instruction.duration).run timeline
          = match totalDuration? (instructions ++ [instruction]) with
            | some total => .ok () { timeline with cursor := total }
            | none => .error (.durationOverflow timeline.channel) timeline := by
  refine ⟨totalDuration?_eq, fun _ _ => totalDuration?_perm,
    fun instructions => Segment.duration_eq (.single instructions),
    fun i q => Segment.duration_eq (.iq i q), fun instructions instruction => ⟨?_, ?_⟩⟩
  · intro hnone
    rw [totalDuration?_concat, hnone, Option.bind_none]
  · exact fun timeline htotal => Timeline.run_advance_of_total htotal instruction

/-- A list that is one sample short of the greatest duration has room for one sample more, before it
    or behind it, and not for two. -/
theorem totals_at_the_limit :
    let idle := Instruction.delay (maxDuration - 1)
    let timeline := { Timeline.new "q1" .iq with cursor := maxDuration - 1 }
    totalDuration? [idle] = some timeline.cursor
    ∧ [idle, .rampToZero 1].Perm [.rampToZero 1, idle]
    ∧ totalDuration? [idle, .rampToZero 1] = totalDuration? [.rampToZero 1, idle]
    ∧ (Timeline.advance 1).run timeline = .ok () { timeline with cursor := maxDuration }
    ∧ (Timeline.advance 2).run timeline = .error (.durationOverflow "q1") timeline
    ∧ totalDuration? [idle, .rampToZero 2] = none
    ∧ totalDuration? [idle, .rampToZero 2, .measure none] = none := by
  obtain ⟨-, hperm, -, -, hlonger⟩ := totals_are_exact
  intro idle timeline
  have htotal : totalDuration? [idle] = some timeline.cursor := by decide
  have hswap : [idle, .rampToZero 1].Perm [.rampToZero 1, idle] := .swap ..
  have hone : totalDuration? [idle, .rampToZero 1] = some maxDuration := by decide
  have htwo : totalDuration? [idle, .rampToZero 2] = none := by decide
  have hmoved := (hlonger [idle] (.rampToZero 1)).2 timeline htotal
  have hrefused := (hlonger [idle] (.rampToZero 2)).2 timeline htotal
  rw [List.singleton_append, hone] at hmoved
  rw [List.singleton_append, htwo] at hrefused
  exact ⟨htotal, hswap, hperm _ _ hswap, hmoved, hrefused, htwo,
    (hlonger [idle, .rampToZero 2] (.measure none)).1 htwo⟩

end PulseTimeline
