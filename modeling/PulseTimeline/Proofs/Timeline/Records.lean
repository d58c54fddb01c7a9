import PulseTimeline.Proofs.Timeline.Representation

set_option autoImplicit false

/-! # Records of timelines

A record is handed over without the cursor and without a mark between the segments that are closed
and the one that goes on. Reading it back checks every segment, so that what is read is a sound
timeline; `toTimeline_eq_ok_iff` says that records and sound timelines are one and the same. Which
records are accepted can therefore be told from the sums of their durations alone. -/

namespace PulseTimeline

/-! ## Segments that fit -/

/-- A segment that fits an element: it is of the kind of the element, and its instructions take no
    longer than a duration can be, along both signals equally long. -/
def Segment.Fits (kind : ChannelKind) : Segment → Prop
  | single instructions => kind = .single ∧ sampleCount instructions ≤ maxDuration
  | iq i q => kind = .iq ∧ sampleCount i ≤ maxDuration ∧ sampleCount q = sampleCount i

theorem Segment.lasts_iff_fits (segment : Segment) (kind : ChannelKind) (total : Nat) :
    segment.Lasts kind total ↔ segment.Fits kind ∧ sampleCount segment.leading = total := by
  cases segment with
  | single instructions =>
      rw [lasts_single_iff, totalDuration?_eq_some_iff, Fits, leading]
      constructor
      · rintro ⟨hkind, hle, rfl⟩
        exact ⟨⟨hkind, hle⟩, rfl⟩
      · rintro ⟨⟨hkind, hle⟩, rfl⟩
        exact ⟨hkind, hle, rfl⟩
  | iq i q =>
      rw [lasts_iq_iff, totalDuration?_eq_some_iff, totalDuration?_eq_some_iff, Fits, leading]
      constructor
      · rintro ⟨hkind, ⟨hle, rfl⟩, -, hq⟩
        exact ⟨⟨hkind, hle, hq⟩, rfl⟩
      · rintro ⟨⟨hkind, hle, hq⟩, rfl⟩
        exact ⟨hkind, ⟨hle, rfl⟩, hle, hq⟩

/-! ## What is read from a record -/

namespace TimelineRecord

theorem checkSegment_eq_ok_iff (record : TimelineRecord) (segment : Segment) (total : Nat) :
    record.checkSegment segment = .ok total ↔ segment.Lasts record.kind total := by
  constructor
  · exact Timeline.lasts_of_checkSegment
  · rintro ⟨hkind, hbalanced, hduration⟩
    simp [checkSegment, hkind, hbalanced, hduration]

/-- Reading a record gives the sound timeline whose record it is, if there is one. -/
theorem toTimeline_eq_ok_iff (record : TimelineRecord) (timeline : Timeline) :
    record.toTimeline = .ok timeline ↔ timeline.Sound ∧ timeline.toRecord = record := by
  constructor
  · intro h
    refine ⟨Timeline.sound_of_toTimeline h, ?_⟩
    unfold toTimeline at h
    split at h
    · cases h
    · next current hlast =>
        obtain ⟨u, -, h⟩ := except_bind_eq_ok.1 h
        obtain ⟨cursor, -, h⟩ := except_bind_eq_ok.1 h
        cases h
        have hsegments := List.dropLast_append_getLast? current hlast
        simp [Timeline.toRecord, Timeline.segments, hsegments]
  · rintro ⟨hsound, rfl⟩
    have hlast : timeline.toRecord.segments.getLast? = some timeline.current :=
      List.getLast?_concat
    have hclosed : timeline.toRecord.segments.dropLast = timeline.closed := List.dropLast_concat
    -- The cursor that is computed anew is the one that the timeline had.
    have hcursor : timeline.toRecord.checkSegment timeline.current = .ok timeline.cursor :=
      (checkSegment_eq_ok_iff _ _ _).2 hsound.current
    have hchecked : (timeline.closed.forM fun segment => do
        let _ ← timeline.toRecord.checkSegment segment) = .ok () := by
      refine forM_of_forall fun segment hsegment => ?_
      obtain ⟨total, htotal⟩ := hsound.closed segment hsegment
      exact except_bind_eq_ok.2 ⟨total, (checkSegment_eq_ok_iff _ _ _).2 htotal, rfl⟩
    unfold toTimeline
    rw [hlast]
    simp only [hclosed, hchecked, hcursor, ok_bind]
    rfl

/-- A record with segments that all fit can be read: the last segment goes on. -/
theorem exists_toTimeline_of_fits {record : TimelineRecord} (hsegments : record.segments ≠ [])
    (hfits : ∀ segment ∈ record.segments, segment.Fits record.kind) :
    ∃ timeline, record.toTimeline = .ok timeline := by
  obtain ⟨channel, kind, segments, phase⟩ := record
  rcases List.eq_nil_or_concat' segments with rfl | ⟨closed, current, rfl⟩
  · exact absurd rfl hsegments
  · have hlasts : ∀ segment ∈ closed ++ [current],
        segment.Lasts kind (sampleCount segment.leading) := fun segment hsegment =>
      (segment.lasts_iff_fits kind _).2 ⟨hfits segment hsegment, rfl⟩
    refine ⟨⟨channel, kind, closed, current, sampleCount current.leading, phase⟩, ?_⟩
    rw [toTimeline_eq_ok_iff]
    refine ⟨⟨fun segment hsegment => ?_, ?_⟩, rfl⟩
    · exact ⟨_, hlasts segment (List.mem_append_left _ hsegment)⟩
    · exact hlasts current (List.mem_append_right _ List.mem_cons_self)

end TimelineRecord

namespace Timeline

theorem Sound.fits {timeline : Timeline} (h : timeline.Sound) :
    ∀ segment ∈ timeline.segments, segment.Fits timeline.kind := by
  intro segment hsegment
  rcases List.mem_append.1 hsegment with hclosed | hlast
  · obtain ⟨total, htotal⟩ := h.closed segment hclosed
    exact ((segment.lasts_iff_fits _ _).1 htotal).1
  · rw [List.mem_singleton.1 hlast]
    exact ((timeline.current.lasts_iff_fits _ _).1 h.current).1

theorem Reached.sound {channel : String} {kind : ChannelKind} {timeline : Timeline}
    (h : Reached (new channel kind) timeline) : timeline.Sound :=
  h.invariant (fun _ call hsound => hsound.result call) (sound_new channel kind)

/-- **Records are faithful.** A record is accepted exactly if it has segments and each of them fits
    the element. What is read from it has that very record, and its cursor is what the instructions
    of the last segment take. The record of a timeline that began new is read back as that timeline,
    after any calls. -/
theorem records_are_faithful :
    (∀ record : TimelineRecord,
      ((∃ timeline, record.toTimeline = .ok timeline)
        ↔ record.segments ≠ [] ∧ ∀ segment ∈ record.segments, segment.Fits record.kind)
      ∧ ∀ timeline, record.toTimeline = .ok timeline →
        timeline.toRecord = record
          ∧ ∃ last, record.segments.getLast? = some last
            ∧ timeline.cursor = sampleCount last.leading)
    ∧ ∀ channel kind timeline, Reached (new channel kind) timeline →
      timeline.toRecord.toTimeline = .ok timeline := by
  refine ⟨fun record => ⟨⟨?_, ?_⟩, ?_⟩, ?_⟩
  · rintro ⟨timeline, hread⟩
    obtain ⟨hsound, rfl⟩ := (record.toTimeline_eq_ok_iff timeline).1 hread
    exact ⟨List.concat_ne_nil _ _, hsound.fits⟩
  · rintro ⟨hsegments, hfits⟩
    exact TimelineRecord.exists_toTimeline_of_fits hsegments hfits
  · intro timeline hread
    obtain ⟨hsound, rfl⟩ := (record.toTimeline_eq_ok_iff timeline).1 hread
    have hcursor := ((timeline.current.lasts_iff_fits _ _).1 hsound.current).2
    exact ⟨rfl, timeline.current, List.getLast?_concat, hcursor.symm⟩
  · intro channel kind timeline hreached
    exact (TimelineRecord.toTimeline_eq_ok_iff _ _).2 ⟨hreached.sound, rfl⟩

/-- A timeline that waits after a restart is read back with the cursor that its record leaves out.
    Where both signals are too long they have the same duration, namely none, and are refused. -/
theorem faithful_record_of_wait_after_restart :
    let record : TimelineRecord :=
      ⟨"q1", .iq, [.iq [.play "x180" [0.5]] [.play "x180" [0.25]],
        .iq [.delay 3] [.delay 3]], ⟨0.0⟩⟩
    let overlong : Segment := .iq [.delay maxDuration, .delay 1] [.delay maxDuration, .delay 1]
    ∃ timeline, Reached (new "q1" .iq) timeline ∧ timeline.toRecord = record
      ∧ record.toTimeline = .ok timeline ∧ timeline.cursor = 3
      ∧ (∃ last, record.segments.getLast? = some last
        ∧ timeline.cursor = sampleCount last.leading)
      ∧ overlong.isBalanced = true
      ∧ ¬ ∃ refused, (TimelineRecord.mk "q1" .iq [overlong] ⟨0.0⟩).toTimeline = .ok refused := by
  intro record overlong
  have hplayed : Reached (new "q1" .iq) _ := .succeeded (.playIq "x180" [0.5] [0.25]) .start rfl
  have hrestarted : Reached (new "q1" .iq) _ := hplayed.succeeded .restart rfl
  have hwaited : Reached (new "q1" .iq) _ := hrestarted.succeeded (.delay 3) rfl
  have hread := records_are_faithful.2 "q1" .iq _ hwaited
  have hexact := ((records_are_faithful.1 record).2 _ hread).2
  refine ⟨_, hwaited, rfl, hread, rfl, hexact, by simp [overlong, Segment.isBalanced], ?_⟩
  rw [(records_are_faithful.1 _).1]
  rintro ⟨-, hfits⟩
  have hlong : maxDuration + 1 ≤ maxDuration := (hfits overlong (List.mem_singleton.2 rfl)).2.1
  omega

end Timeline

end PulseTimeline
