import Mathlib.Data.List.Forall2
import PulseTimeline.Proofs.Computation
import PulseTimeline.Proofs.Timeline.Calls
import PulseTimeline.Proofs.Timeline.Duration

set_option autoImplicit false

/-! # How timelines represent what was played

A timeline is sound if its segments are of its kind, both quadratures of a segment last equally
long, no segment is longer than a duration can be, and the cursor is the duration of the current
segment. New timelines and those read from a record are sound, and no call, successful or not, takes
soundness away. On a timeline that began empty the two quadratures even mirror each other: they
differ in the samples of their pulses only. -/

namespace PulseTimeline

/-! ## Sound segments -/

/-- A segment of a kind whose quadratures, if there are two, both last `total` samples. -/
structure Segment.Lasts (segment : Segment) (kind : ChannelKind) (total : Nat) : Prop where
  kind_eq : segment.kind = kind
  balanced : segment.isBalanced = true
  duration?_eq_some : segment.duration? = some total

namespace Segment

theorem lasts_empty (kind : ChannelKind) : (empty kind).Lasts kind 0 := by
  cases kind with
  | single => exact ⟨rfl, rfl, rfl⟩
  | iq => exact ⟨rfl, by simp [isBalanced, empty], rfl⟩

theorem lasts_single_iff (instructions : List Instruction) (kind : ChannelKind) (total : Nat) :
    (single instructions).Lasts kind total
      ↔ kind = .single ∧ totalDuration? instructions = some total := by
  constructor
  · rintro ⟨hkind, -, hduration⟩
    exact ⟨hkind.symm, hduration⟩
  · rintro ⟨rfl, hduration⟩
    exact ⟨rfl, rfl, hduration⟩

theorem lasts_iq_iff (i q : List Instruction) (kind : ChannelKind) (total : Nat) :
    (iq i q).Lasts kind total
      ↔ kind = .iq ∧ totalDuration? i = some total ∧ totalDuration? q = some total := by
  constructor
  · rintro ⟨hkind, hbalanced, hduration⟩
    have hi : totalDuration? i = some total := hduration
    have hq : totalDuration? i = totalDuration? q := by simpa [isBalanced] using hbalanced
    exact ⟨hkind.symm, hi, hq ▸ hi⟩
  · rintro ⟨rfl, hi, hq⟩
    exact ⟨rfl, by simp [isBalanced, hi, hq], hi⟩

theorem Lasts.push {segment : Segment} {kind : ChannelKind} {total : Nat}
    (h : segment.Lasts kind total) (instruction : Instruction)
    (hfits : total + instruction.duration ≤ maxDuration) :
    (segment.push instruction).Lasts kind (total + instruction.duration) := by
  cases segment with
  | single instructions =>
      obtain ⟨hkind, htotal⟩ := (lasts_single_iff _ _ _).1 h
      exact (lasts_single_iff _ _ _).2
        ⟨hkind, totalDuration?_append_singleton instructions instruction htotal hfits⟩
  | iq i q =>
      obtain ⟨hkind, hi, hq⟩ := (lasts_iq_iff _ _ _ _).1 h
      exact (lasts_iq_iff _ _ _ _).2
        ⟨hkind, totalDuration?_append_singleton i instruction hi hfits,
          totalDuration?_append_singleton q instruction hq hfits⟩

theorem Lasts.pushPlay {segment : Segment} {total : Nat} (h : segment.Lasts .iq total)
    (operation : String) (iSamples qSamples : List Float)
    (hlength : iSamples.length = qSamples.length)
    (hfits : total + iSamples.length ≤ maxDuration) :
    (segment.pushPlay operation iSamples qSamples).Lasts .iq (total + iSamples.length) := by
  cases segment with
  | single instructions => exact absurd ((lasts_single_iff _ _ _).1 h).1 (by simp)
  | iq i q =>
      obtain ⟨-, hi, hq⟩ := (lasts_iq_iff _ _ _ _).1 h
      refine (lasts_iq_iff _ _ _ _).2 ⟨rfl, ?_, ?_⟩
      · exact totalDuration?_append_singleton i (.play operation iSamples) hi hfits
      · have hq' := totalDuration?_append_singleton q (.play operation qSamples) hq
          (by rw [Instruction.duration, ← hlength]; exact hfits)
        rwa [Instruction.duration, ← hlength] at hq'

end Segment

/-! ## Sound timelines -/

/-- The segments of a timeline are of its kind and have durations, and the cursor stands at the end
    of the current one. -/
structure Timeline.Sound (timeline : Timeline) : Prop where
  closed : ∀ segment ∈ timeline.closed, ∃ total, segment.Lasts timeline.kind total
  current : timeline.current.Lasts timeline.kind timeline.cursor

namespace Timeline

theorem sound_new (channel : String) (kind : ChannelKind) : (new channel kind).Sound where
  closed := by simp [new]
  current := Segment.lasts_empty kind

theorem Sound.cursor_le {timeline : Timeline} (h : timeline.Sound) :
    timeline.cursor ≤ maxDuration := by
  have hcurrent := h.current.duration?_eq_some
  rw [Segment.duration?_eq] at hcurrent
  exact ((totalDuration?_eq_some_iff _ _).1 hcurrent).1

theorem Sound.current_duration {timeline : Timeline} (h : timeline.Sound) :
    timeline.current.duration = timeline.cursor :=
  Segment.duration_of_duration? h.current.duration?_eq_some

/-- A phase reset takes no time, so its two marks leave the cursor where it is. -/
theorem Sound.currentAfter {timeline : Timeline} (h : timeline.Sound) (call : Call)
    (haccepted : call.refusal? timeline = none) :
    (call.currentAfter timeline).Lasts timeline.kind (call.cursorAfter timeline) := by
  cases call with
  | delay duration =>
      cases duration with
      | zero => exact h.current
      | succ n =>
          have hfits := (overflow?_eq_none_iff timeline (n + 1)).1 haccepted
          exact h.current.push (.delay (n + 1)) hfits
  | playIq operation i q =>
      obtain ⟨hlength, hkind, hfits⟩ :=
        (Call.refusal?_playIq_eq_none_iff timeline operation i q).1 haccepted
      have hcurrent := h.current
      rw [hkind] at hcurrent ⊢
      exact hcurrent.pushPlay operation i q hlength hfits
  | measure operation => exact h.current.push (.measure operation) h.cursor_le
  | phaseOffset phase => exact h.current.push (.phaseOffset phase) h.cursor_le
  | resetPhase =>
      have hfirst := h.current.push (.phaseOffset (-timeline.phase)) h.cursor_le
      exact hfirst.push .resetPhase h.cursor_le
  | rampToZero duration =>
      exact h.current.push (.rampToZero duration)
        ((overflow?_eq_none_iff timeline duration).1 haccepted)
  | restart => exact Segment.lasts_empty timeline.kind

theorem Sound.result {timeline : Timeline} (h : timeline.Sound) (call : Call)
    (haccepted : call.refusal? timeline = none) : (call.result timeline).Sound where
  closed := by
    intro segment hsegment
    cases call with
    | restart =>
        rcases List.mem_append.1 hsegment with hold | hclosing
        · exact h.closed segment hold
        · rw [List.mem_singleton.1 hclosing]
          exact ⟨timeline.cursor, h.current⟩
    | _ => exact h.closed segment hsegment
  current := h.currentAfter call haccepted

theorem lasts_of_checkSegment {record : TimelineRecord} {segment : Segment} {total : Nat}
    (h : record.checkSegment segment = .ok total) : segment.Lasts record.kind total := by
  unfold TimelineRecord.checkSegment at h
  split at h
  · cases h
  · next hkind =>
      split at h
      · cases h
      · next hbalanced =>
          split at h
          · next duration hduration =>
              cases h
              exact ⟨not_not.1 hkind, by simpa using hbalanced, hduration⟩
          · cases h

theorem sound_of_toTimeline {record : TimelineRecord} {timeline : Timeline}
    (h : record.toTimeline = .ok timeline) : timeline.Sound := by
  unfold TimelineRecord.toTimeline at h
  split at h
  · cases h
  · next current hlast =>
      obtain ⟨u, hclosed, h⟩ := except_bind_eq_ok.1 h
      obtain ⟨cursor, hcurrent, h⟩ := except_bind_eq_ok.1 h
      cases h
      refine ⟨?_, lasts_of_checkSegment hcurrent⟩
      intro segment hsegment
      have hchecked := forM_eq_ok hclosed segment hsegment
      obtain ⟨total, htotal, -⟩ := except_bind_eq_ok.1 hchecked
      exact ⟨total, lasts_of_checkSegment htotal⟩

end Timeline

/-! ## Mirrored quadratures -/

/-- An instruction of the in-phase signal beside that of the quadrature signal: the same one, or the
    same pulse with other samples, but as many. -/
inductive Instruction.Mirrors : Instruction → Instruction → Prop where
  | same (instruction : Instruction) : Mirrors instruction instruction
  | played (operation : String) (i q : List Float) (h : i.length = q.length) :
    Mirrors (.play operation i) (.play operation q)

namespace Segment

/-- The quadratures of a segment, if there are two, have the same instructions but for the samples
    of pulses. -/
def Mirrored : Segment → Prop
  | single _ => True
  | iq i q => List.Forall₂ Instruction.Mirrors i q

theorem mirrored_empty (kind : ChannelKind) : (empty kind).Mirrored := by
  cases kind with
  | single => exact trivial
  | iq => exact List.Forall₂.nil

theorem Mirrored.push {segment : Segment} (h : segment.Mirrored) (instruction : Instruction) :
    (segment.push instruction).Mirrored := by
  cases segment with
  | single instructions => exact trivial
  | iq i q => exact List.rel_append h (.cons (.same instruction) .nil)

theorem Mirrored.pushPlay {segment : Segment} (h : segment.Mirrored) (operation : String)
    (iSamples qSamples : List Float) (hlength : iSamples.length = qSamples.length) :
    (segment.pushPlay operation iSamples qSamples).Mirrored := by
  cases segment with
  | single instructions => exact trivial
  | iq i q => exact List.rel_append h (.cons (.played operation iSamples qSamples hlength) .nil)

end Segment

namespace Timeline

theorem mirrored_currentAfter {timeline : Timeline} (h : timeline.current.Mirrored) (call : Call)
    (haccepted : call.refusal? timeline = none) : (call.currentAfter timeline).Mirrored := by
  cases call with
  | delay duration =>
      simp only [Call.currentAfter]
      split
      · exact h.push (.delay duration)
      · exact h
  | playIq operation i q =>
      have hlength := ((Call.refusal?_playIq_eq_none_iff timeline operation i q).1 haccepted).1
      exact h.pushPlay operation i q hlength
  | measure operation => exact h.push (.measure operation)
  | phaseOffset phase => exact h.push (.phaseOffset phase)
  | resetPhase => exact (h.push (.phaseOffset (-timeline.phase))).push .resetPhase
  | rampToZero duration => exact h.push (.rampToZero duration)
  | restart => exact Segment.mirrored_empty timeline.kind

theorem mirrored_result {timeline : Timeline} (h : ∀ segment ∈ timeline.segments, segment.Mirrored)
    (call : Call) (haccepted : call.refusal? timeline = none) :
    ∀ segment ∈ (call.result timeline).segments, segment.Mirrored := by
  have hcurrent : timeline.current.Mirrored := h timeline.current (by simp [segments])
  intro segment hsegment
  rcases List.mem_append.1 hsegment with hclosed | hlast
  · cases call with
    | restart => exact h segment hclosed
    | _ => exact h segment (List.mem_append_left _ hclosed)
  · rw [List.mem_singleton.1 hlast]
    exact mirrored_currentAfter hcurrent call haccepted

/-! ## After any calls -/

/-- What calls make of a timeline, one after the other, whether they succeed or fail. -/
inductive Reached (first : Timeline) : Timeline → Prop where
  | start : Reached first first
  | succeeded {timeline next : Timeline} (call : Call) (h : Reached first timeline)
    (hcall : call.edit.run timeline = .ok () next) : Reached first next
  | failed {timeline next : Timeline} {e : TimelineError} (call : Call) (h : Reached first timeline)
    (hcall : call.edit.run timeline = .error e next) : Reached first next

/-- What every result of a call keeps, every sequence of calls keeps. -/
theorem Reached.invariant {P : Timeline → Prop}
    (hresult : ∀ (timeline : Timeline) (call : Call), P timeline →
      call.refusal? timeline = none → P (call.result timeline))
    {first timeline : Timeline} (hfirst : P first) (h : Reached first timeline) : P timeline := by
  induction h with
  | start => exact hfirst
  | @succeeded timeline next call _ hcall ih =>
      obtain ⟨haccepted, rfl⟩ := (run_edit_eq_ok_iff timeline next call ()).1 hcall
      exact hresult timeline call ih haccepted
  | failed call _ hcall ih =>
      rw [eq_of_run_edit_eq_error hcall]
      exact ih

/-- **Representation and atomicity.** A timeline that began new or was read from a record is sound
    after any calls; if it began new, its quadratures mirror each other. A call that fails leaves
    the timeline exactly as it was. -/
theorem representation_and_atomicity :
    (∀ first timeline : Timeline,
      ((∃ channel kind, first = new channel kind)
        ∨ ∃ record : TimelineRecord, record.toTimeline = .ok first) →
      Reached first timeline → timeline.Sound)
    ∧ (∀ channel kind timeline, Reached (new channel kind) timeline →
      ∀ segment ∈ timeline.segments, segment.Mirrored)
    ∧ ∀ (timeline next : Timeline) (call : Call) (e : TimelineError),
      call.edit.run timeline = .error e next → next = timeline := by
  refine ⟨?_, ?_, ?_⟩
  · intro first timeline hfirst hreached
    have hsound : first.Sound := by
      rcases hfirst with ⟨channel, kind, rfl⟩ | ⟨record, hrecord⟩
      · exact sound_new channel kind
      · exact sound_of_toTimeline hrecord
    exact hreached.invariant (fun _ call h => h.result call) hsound
  · intro channel kind timeline hreached
    have hnew : ∀ segment ∈ (new channel kind).segments, segment.Mirrored := by
      intro segment hsegment
      have hempty : segment = .empty kind := by simpa [segments, new] using hsegment
      rw [hempty]
      exact Segment.mirrored_empty kind
    exact hreached.invariant (fun _ call h => mirrored_result h call) hnew
  · intro timeline next call e hcall
    exact eq_of_run_edit_eq_error hcall

/-- After a pulse has been played, one with too few samples and a ramp that is too long are refused:
    the pulse stays as it is. -/
theorem representation_of_refused_calls :
    ∃ timeline : Timeline, Reached (new "q1" .iq) timeline ∧ timeline.Sound ∧
      timeline.current = .iq [.play "x180" [0.5]] [.play "x180" [0.25]] ∧ timeline.cursor = 1 ∧
      (∀ segment ∈ timeline.segments, segment.Mirrored) ∧
      ∃ e next, (Call.rampToZero maxDuration).edit.run timeline = .error e next ∧
        next = timeline := by
  let played := (Call.playIq "x180" [0.5] [0.25]).result (new "q1" .iq)
  have hplayed : Reached (new "q1" .iq) played :=
    .succeeded (.playIq "x180" [0.5] [0.25]) .start rfl
  have hshort : Reached (new "q1" .iq) played := hplayed.failed (.playIq "x180" [0.5] []) rfl
  have hcursor : played.cursor = 1 := rfl
  have hrefusal : (Call.rampToZero maxDuration).refusal? played
      = some (.durationOverflow "q1") := by
    rw [Call.refusal?, overflow?, hcursor]
    · exact if_neg (by rw [Call.samples]; omega)
    all_goals simp
  have hramp : (Call.rampToZero maxDuration).edit.run played
      = .error (.durationOverflow "q1") played := by rw [run_edit, hrefusal]
  have hlong : Reached (new "q1" .iq) played := hshort.failed (.rampToZero maxDuration) hramp
  exact ⟨played, hlong, representation_and_atomicity.1 _ _ (.inl ⟨"q1", .iq, rfl⟩) hlong, rfl, rfl,
    representation_and_atomicity.2.1 "q1" .iq _ hlong, _, _, hramp,
    representation_and_atomicity.2.2 _ _ _ _ hramp⟩

end Timeline

end PulseTimeline
