import PulseTimeline.Proofs.Timeline.Calls
import PulseTimeline.Proofs.Timeline.Duration

set_option autoImplicit false

/-! # Timelines only grow

A timeline that continues an earlier one has the closed segments of the earlier one where they
were, and the segment that was current there, which it may have closed by now, has only been
appended to. No call does anything else, and no call moves the end of a timeline back in time. -/

namespace PulseTimeline

theorem sampleCount_le_of_prefix {a b : List Instruction} (h : a <+: b) :
    sampleCount a ≤ sampleCount b := by
  obtain ⟨rest, rfl⟩ := h
  rw [sampleCount_append]
  omega

namespace Segment

/-- A segment that continues an earlier one has its instructions, and maybe more behind them. -/
inductive Continues : Segment → Segment → Prop where
  | single {later earlier : List Instruction} (h : earlier <+: later) :
    Continues (.single later) (.single earlier)
  | iq {i q iEarlier qEarlier : List Instruction} (hi : iEarlier <+: i) (hq : qEarlier <+: q) :
    Continues (.iq i q) (.iq iEarlier qEarlier)

theorem Continues.refl (segment : Segment) : segment.Continues segment := by
  cases segment with
  | single instructions => exact .single (List.prefix_refl _)
  | iq i q => exact .iq (List.prefix_refl _) (List.prefix_refl _)

theorem Continues.trans {last middle first : Segment} (h : last.Continues middle)
    (hfirst : middle.Continues first) : last.Continues first := by
  cases hfirst with
  | single hearlier =>
      cases h with
      | single hlater => exact .single (hearlier.trans hlater)
  | iq hi hq =>
      cases h with
      | iq hi' hq' => exact .iq (hi.trans hi') (hq.trans hq')

theorem continues_push (segment : Segment) (instruction : Instruction) :
    (segment.push instruction).Continues segment := by
  cases segment with
  | single instructions => exact .single (List.prefix_append _ _)
  | iq i q => exact .iq (List.prefix_append _ _) (List.prefix_append _ _)

theorem continues_pushPlay (segment : Segment) (operation : String)
    (iSamples qSamples : List Float) :
    (segment.pushPlay operation iSamples qSamples).Continues segment := by
  cases segment with
  | single instructions => exact .single (List.prefix_refl _)
  | iq i q => exact .iq (List.prefix_append _ _) (List.prefix_append _ _)

theorem Continues.duration_le {later earlier : Segment} (h : later.Continues earlier) :
    earlier.duration ≤ later.duration := by
  have hcount : sampleCount earlier.leading ≤ sampleCount later.leading := by
    cases h with
    | single hprefix => exact sampleCount_le_of_prefix hprefix
    | iq hi _ => exact sampleCount_le_of_prefix hi
  rw [duration_eq, duration_eq]
  omega

end Segment

namespace Timeline

/-- A timeline that continues an earlier one has not altered anything that was there. -/
structure Continues (later earlier : Timeline) : Prop where
  channel : later.channel = earlier.channel
  kind : later.kind = earlier.kind
  /-- What was closed is closed, where it was and as it was. -/
  closed : earlier.closed <+: later.closed
  /-- What stands in the place of the segment that was current continues it. -/
  current : ∃ segment, later.segment? earlier.closed.length = some segment
    ∧ segment.Continues earlier.current

theorem segment?_of_lt {timeline : Timeline} {index : Nat} (h : index < timeline.closed.length) :
    timeline.segment? index = timeline.closed[index]? :=
  List.getElem?_append_left h

@[simp] theorem segment?_length_closed (timeline : Timeline) :
    timeline.segment? timeline.closed.length = some timeline.current := by
  simp [segment?, segments]

theorem Continues.refl (timeline : Timeline) : timeline.Continues timeline where
  channel := rfl
  kind := rfl
  closed := List.prefix_refl _
  current := ⟨timeline.current, timeline.segment?_length_closed, .refl _⟩

/-- The segment that was current first is either closed by the second timeline, and then stays as
    it is, or still current there. -/
theorem Continues.trans {last middle first : Timeline} (h : last.Continues middle)
    (hfirst : middle.Continues first) : last.Continues first where
  channel := h.channel.trans hfirst.channel
  kind := h.kind.trans hfirst.kind
  closed := hfirst.closed.trans h.closed
  current := by
    obtain ⟨segment, hsegment, hcontinues⟩ := hfirst.current
    rcases Nat.lt_or_eq_of_le hfirst.closed.length_le with hlt | heq
    · -- closed in the second timeline already
      have hlast := Nat.lt_of_lt_of_le hlt h.closed.length_le
      rw [segment?_of_lt hlt] at hsegment
      obtain ⟨rest, hrest⟩ := h.closed
      refine ⟨segment, ?_, hcontinues⟩
      rw [segment?_of_lt hlast, ← hrest, List.getElem?_append_left hlt, hsegment]
    · -- still current in the second timeline
      rw [heq, segment?_length_closed] at hsegment
      cases hsegment
      obtain ⟨later, hlater, hmore⟩ := h.current
      exact ⟨later, heq ▸ hlater, hmore.trans hcontinues⟩

/-- Instructions that are appended to the current segment alter nothing. -/
theorem continues_of_current {later earlier : Timeline} (hchannel : later.channel = earlier.channel)
    (hkind : later.kind = earlier.kind) (hclosed : later.closed = earlier.closed)
    (hcurrent : later.current.Continues earlier.current) : later.Continues earlier where
  channel := hchannel
  kind := hkind
  closed := hclosed ▸ List.prefix_refl _
  current := ⟨later.current, by rw [← hclosed, segment?_length_closed], hcurrent⟩

theorem continues_result (timeline : Timeline) (call : Call) :
    (call.result timeline).Continues timeline := by
  cases call with
  | restart =>
      -- What was current is now the last of the closed segments.
      refine ⟨rfl, rfl, List.prefix_append _ _, timeline.current, ?_, .refl _⟩
      have hlt : timeline.closed.length < (Call.restart.result timeline).closed.length := by
        simp [Call.result, Call.closedAfter]
      rw [segment?_of_lt hlt]
      simp [Call.result, Call.closedAfter]
  | delay duration =>
      refine continues_of_current rfl rfl rfl ?_
      simp only [Call.result, Call.currentAfter]
      split
      · exact Segment.continues_push _ _
      · exact .refl _
  | playIq operation i q =>
      exact continues_of_current rfl rfl rfl (Segment.continues_pushPlay _ operation i q)
  | measure operation => exact continues_of_current rfl rfl rfl (Segment.continues_push _ _)
  | phaseOffset phase => exact continues_of_current rfl rfl rfl (Segment.continues_push _ _)
  | resetPhase =>
      exact continues_of_current rfl rfl rfl
        ((Segment.continues_push _ _).trans (Segment.continues_push _ _))
  | rampToZero duration => exact continues_of_current rfl rfl rfl (Segment.continues_push _ _)

/-- A call continues its timeline, whether it is refused or not. -/
theorem continues_edit (timeline : Timeline) (call : Call) :
    (stateAfter call.edit timeline).Continues timeline :=
  stateAfter_edit (P := fun later => later.Continues timeline) (.refl timeline)
    fun _ => continues_result timeline call

/-! ## Instants -/

theorem Continues.segments_eq {later earlier : Timeline} (h : later.Continues earlier) :
    ∃ segment rest, later.segments = earlier.closed ++ segment :: rest
      ∧ segment.Continues earlier.current := by
  obtain ⟨segment, hsegment, hcontinues⟩ := h.current
  obtain ⟨tail, htail⟩ := h.closed.trans (List.prefix_append later.closed [later.current])
  have htail : later.segments = earlier.closed ++ tail := htail.symm
  rw [segment?, htail, List.getElem?_append_right (Nat.le_refl _), Nat.sub_self] at hsegment
  obtain ⟨rest, rfl⟩ : ∃ rest, tail = segment :: rest := by
    cases tail with
    | nil => simp at hsegment
    | cons first rest =>
        cases hsegment
        exact ⟨rest, rfl⟩
  exact ⟨segment, rest, htail, hcontinues⟩

/-- The end of a timeline does not go back in time. -/
theorem Continues.endTime_le {later earlier : Timeline} (h : later.Continues earlier) :
    earlier.endTime ≤ later.endTime := by
  obtain ⟨segment, rest, hsegments, hcontinues⟩ := h.segments_eq
  have hduration := hcontinues.duration_le
  have hlater : later.endTime
      = earlier.beginning + (segment.duration + (rest.map Segment.duration).sum) := by
    simp [endTime, beginning, closedDurations, hsegments]
  rw [endTime_eq, hlater]
  omega

end Timeline

end PulseTimeline
