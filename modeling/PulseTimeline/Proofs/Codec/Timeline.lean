import PulseTimeline.Codec.Timeline
import PulseTimeline.Proofs.Codec.Storage
import PulseTimeline.Proofs.Timeline.Instructions

set_option autoImplicit false

/-! # Timelines survive as documents

Instructions and segments are tagged choices, so a decoder has to take the tag off before it finds
the fields. Each of them is read back from its document as long as its durations are no longer than
a duration can be; a timeline is read back if it is sound, and a store if its timelines are. The
documents are legible where the digits of the doubles in them are, and no store is nested deep. -/

namespace PulseTimeline

/-! ## Tagged choices -/

namespace Decode

variable {members : List (String × Json)}

/-- The tag comes first and is taken off. -/
theorem tagged_object {tag name : String} {alternatives : List String} (nested : Bool)
    (hname : name ∈ alternatives) (htag : ∀ member ∈ members, member.1 ≠ tag)
    (hreadable : ∀ member ∈ members, member.2.isReadable = true) :
    tagged tag alternatives nested (.object ((tag, .text name) :: members))
      = .ok (name, .object members) := by
  have htags : members.filter (fun member => member.1 == tag) = [] := by
    simpa [List.filter_eq_nil_iff] using htag
  have hothers : members.filter (fun member => member.1 != tag) = members := by
    simpa [List.filter_eq_self] using htag
  have hall : (Json.object ((tag, .text name) :: members)).isReadable = true := by
    rw [Json.isReadable_object_iff, List.forall_mem_cons]
    exact ⟨rfl, hreadable⟩
  rw [tagged, if_pos hall]
  simp [takeTag, htags, hothers, tagName, hname]

/-- A record is read as it is written. -/
theorem fields_object {α : Type} {names : List String} (hnodup : (members.map Prod.fst).Nodup)
    (hnames : ∀ key ∈ members.map Prod.fst, key ∈ names) {f : Fields → Decoded α}
    {result : Decoded α} (h : ∀ record, record.Shows id members → f record = result) :
    (fields names (.object members) >>= f) = result :=
  fields_bind Json.presents_id hnodup hnames h

end Decode

open Decode

/-! ## Instructions -/

namespace Instruction

theorem decodeDuration_duration {n : Nat} (h : n ≤ maxDuration) :
    decodeDuration (.object [("duration", .int (Int.ofNat n))]) = .ok n := by
  refine fields_object (by simp) (by simp) fun record hshows => ?_
  have hfits : n < 1 <<< 64 := Nat.lt_succ_of_le h
  rw [hshows.required (by rfl), natural_present Json.presents_id hfits]

@[simp] theorem isReadable_encode (instruction : Instruction) :
    instruction.encode.isReadable = true := by
  cases instruction with
  | measure operation => cases operation <;> simp [encode]
  | _ => simp [encode]

/-- An instruction is read back if it lasts no longer than a duration can be. -/
theorem decode_encode (nested : Bool) {instruction : Instruction}
    (h : instruction.duration ≤ maxDuration) :
    decode nested instruction.encode = .ok instruction := by
  cases instruction with
  | play operation samples =>
      have hsamples : list float (id (.array (samples.map .float))) = .ok samples :=
        list_present Json.presents_id fun _ _ => rfl
      rw [decode, encode, tagged_object nested (by decide) (by simp) (by simp), ok_bind]
      refine fields_object (by simp) (by simp) fun record hshows => ?_
      rw [hshows.required (by rfl), string_present Json.presents_id, ok_bind,
        hshows.required (by rfl), hsamples]
      rfl
  | delay n =>
      have hn : n ≤ maxDuration := h
      rw [decode, encode, tagged_object nested (by decide) (by simp) (by simp), ok_bind]
      simp only [decodeDuration_duration hn]
      rfl
  | measure operation =>
      -- Without an operation nothing is left once the tag has been taken off.
      cases operation with
      | none =>
          rw [decode, encode, tagged_object nested (by decide) (by simp) (by simp)]
          rfl
      | some operation =>
          rw [decode, encode, tagged_object nested (by decide) (by simp) (by simp)]
          rfl
  | phaseOffset phase =>
      rw [decode, encode, tagged_object nested (by decide) (by simp) (by simp)]
      rfl
  | resetPhase =>
      rw [decode, encode, tagged_object nested (by decide) (by simp) (by simp)]
      rfl
  | rampToZero n =>
      have hn : n ≤ maxDuration := h
      rw [decode, encode, tagged_object nested (by decide) (by simp) (by simp), ok_bind]
      simp only [decodeDuration_duration hn]
      rfl

theorem list_decode_encode (instructions : List Instruction)
    (h : ∀ instruction ∈ instructions, instruction.duration ≤ maxDuration) :
    list (decode true) (id (.array (instructions.map encode))) = .ok instructions :=
  list_present Json.presents_id fun instruction hmem => decode_encode true (h instruction hmem)

end Instruction

/-! ## Segments, timelines and stores -/

theorem ChannelKind.decode_encode (kind : ChannelKind) : decode kind.encode = .ok kind := by
  cases kind <;> rfl

theorem Segment.decode_encode {segment : Segment}
    (h : ∀ instruction ∈ segment.instructions, instruction.duration ≤ maxDuration) :
    decode segment.encode = .ok segment := by
  cases segment with
  | single instructions =>
      rw [decode, encode, tagged_object false (by decide) (by simp) (by simp), ok_bind]
      refine fields_object (by simp) (by simp) fun record hshows => ?_
      rw [hshows.required (by rfl), Instruction.list_decode_encode instructions h]
      rfl
  | iq i q =>
      obtain ⟨hi, hq⟩ := List.forall_mem_append.1 h
      rw [decode, encode, tagged_object false (by decide) (by simp) (by simp), ok_bind]
      refine fields_object (by simp) (by simp) fun record hshows => ?_
      rw [hshows.required (by rfl), Instruction.list_decode_encode i hi, ok_bind,
        hshows.required (by rfl), Instruction.list_decode_encode q hq]
      rfl

theorem TimelineRecord.decode_encode {record : TimelineRecord}
    (h : ∀ segment ∈ record.segments, ∀ instruction ∈ segment.instructions,
      instruction.duration ≤ maxDuration) :
    decode record.encode = .ok record := by
  have hsegments : list Segment.decode (id (.array (record.segments.map Segment.encode)))
      = .ok record.segments :=
    list_present Json.presents_id fun segment hmem => Segment.decode_encode (h segment hmem)
  rw [decode, encode]
  refine fields_object (by simp) (by simp) fun record' hshows => ?_
  rw [hshows.required (by rfl), string_present Json.presents_id, ok_bind,
    hshows.required (by rfl), id, ChannelKind.decode_encode, ok_bind, hshows.required (by rfl),
    hsegments, ok_bind, hshows.required (by rfl)]
  rfl

theorem Timeline.decode_encode {timeline : Timeline} (h : timeline.Sound) :
    decode timeline.encode = .ok timeline := by
  have hrecord : TimelineRecord.decode timeline.toRecord.encode = .ok timeline.toRecord :=
    TimelineRecord.decode_encode fun segment hsegment => (h.fits segment hsegment).duration_le
  -- The cursor is not in the record; a sound timeline has the one that is computed anew.
  have hread := (timeline.toRecord.toTimeline_eq_ok_iff timeline).2 ⟨h, rfl⟩
  rw [decode, encode, hrecord, ok_bind, hread]
  rfl

/-- **Stores survive.** A store of sound timelines is read back from its document. -/
theorem Store.decode_encode {store : Store}
    (h : ∀ channel timeline, store.find? channel = some timeline → timeline.Sound) :
    decode store.encode = .ok store := by
  have hmembers : members Timeline.decode store.encode = .ok store.timelines.entries := by
    rw [encode, Table.encode, members, mapM_eq_ok_iff_forall₂, List.forall₂_map_left_iff,
      List.forall₂_same]
    intro entry hentry
    have hsound := h entry.1 entry.2 ((store.timelines.find?_eq_some_iff _ _).2 hentry)
    rw [Timeline.decode_encode hsound]
    rfl
  rw [decode, table, hmembers, ok_bind]
  show Except.ok (Store.mk (Table.ofList store.timelines.entries)) = .ok store
  rw [Table.ofList_entries]

/-! ## Legibility -/

/-- The doubles in an instruction: samples or a phase. -/
def Instruction.doubles : Instruction → List Float
  | play _ samples => samples
  | phaseOffset phase => [phase.value]
  | _ => []

/-- The doubles in a timeline: its phase, and what its instructions hold. -/
def Timeline.doubles (timeline : Timeline) : List Float :=
  timeline.phase.value :: timeline.instructions.flatMap Instruction.doubles

/-- The doubles in all timelines of a store. -/
def Store.doubles (store : Store) : List Float :=
  store.timelines.values.flatMap Timeline.doubles

namespace Instruction

theorem legible_encode {instruction : Instruction} (hduration : instruction.duration ≤ maxDuration)
    (hdoubles : ∀ x ∈ instruction.doubles, (Json.float x).ReadsBack) :
    instruction.encode.Legible := by
  have hnatural : (Json.int (Int.ofNat instruction.duration)).Legible :=
    Json.legible_natural (Nat.lt_succ_of_le hduration)
  cases instruction with
  | play operation samples =>
      have hsamples : ∀ x ∈ samples, (Json.float x).Legible := fun x hx =>
        Json.legible_float (hdoubles x hx)
      simpa [encode] using hsamples
  | measure operation => cases operation <;> simp [encode]
  | phaseOffset phase =>
      have hphase := Json.legible_float (hdoubles phase.value (List.mem_singleton.2 rfl))
      simp [encode, hphase]
  | _ => simp_all [encode, duration]

theorem height_encode_le (instruction : Instruction) : instruction.encode.height ≤ 2 := by
  cases instruction with
  | measure operation => cases operation <;> simp [encode, Json.height_object_le_iff]
  | _ => simp [encode, Json.height_object_le_iff, Json.height_array_le_iff]

end Instruction

theorem Segment.legible_encode {segment : Segment}
    (hduration : ∀ instruction ∈ segment.instructions, instruction.duration ≤ maxDuration)
    (hdoubles : ∀ instruction ∈ segment.instructions, ∀ x ∈ instruction.doubles,
      (Json.float x).ReadsBack) :
    segment.encode.Legible := by
  have hinstructions : ∀ instruction ∈ segment.instructions, instruction.encode.Legible :=
    fun instruction hmem =>
      Instruction.legible_encode (hduration instruction hmem) (hdoubles instruction hmem)
  cases segment with
  | single instructions =>
      have hall : ∀ instruction ∈ instructions, instruction.encode.Legible := hinstructions
      simpa [encode] using hall
  | iq i q => simpa [encode] using List.forall_mem_append.1 hinstructions

theorem Segment.height_encode_le (segment : Segment) : segment.encode.height ≤ 4 := by
  cases segment <;> simp [encode, Json.height_object_le_iff, Json.height_array_le_iff,
    Instruction.height_encode_le]

theorem Timeline.legible_encode {timeline : Timeline} (hsound : timeline.Sound)
    (h : ∀ x ∈ timeline.doubles, (Json.float x).ReadsBack) : timeline.encode.Legible := by
  obtain ⟨hphase, hdoubles⟩ := List.forall_mem_cons.1 h
  have hsegments : ∀ segment ∈ timeline.segments, segment.encode.Legible := by
    intro segment hsegment
    refine Segment.legible_encode (hsound.fits segment hsegment).duration_le ?_
    intro instruction hmem x hx
    have hinstruction : instruction ∈ timeline.instructions :=
      List.mem_flatMap.2 ⟨segment, hsegment, hmem⟩
    exact hdoubles x (List.mem_flatMap.2 ⟨instruction, hinstruction, hx⟩)
  have hkind : timeline.kind.encode.Legible := by cases timeline.kind <;> simp [ChannelKind.encode]
  simpa [encode, TimelineRecord.encode, toRecord] using
    ⟨hkind, hsegments, Json.legible_float hphase⟩

theorem Timeline.height_encode_le (timeline : Timeline) : timeline.encode.height ≤ 6 := by
  have hkind : timeline.kind.encode.height = 0 := by cases timeline.kind <;> rfl
  simp [encode, TimelineRecord.encode, toRecord, Json.height_object_le_iff,
    Json.height_array_le_iff, Segment.height_encode_le, hkind]

theorem Store.legible_encode {store : Store}
    (hsound : ∀ channel timeline, store.find? channel = some timeline → timeline.Sound)
    (h : ∀ x ∈ store.doubles, (Json.float x).ReadsBack) : store.encode.Legible := by
  rw [encode, Table.encode, Json.legible_object_iff, List.forall_mem_map]
  intro entry hentry
  have hfound := (store.timelines.find?_eq_some_iff entry.1 entry.2).2 hentry
  refine Timeline.legible_encode (hsound entry.1 entry.2 hfound) fun x hx => ?_
  exact h x (List.mem_flatMap.2 ⟨entry.2, List.mem_map_of_mem hentry, hx⟩)

theorem Store.height_encode_le (store : Store) : store.encode.height ≤ 7 := by
  rw [encode, Table.encode, Json.height_object_le_iff, List.forall_mem_map]
  exact fun entry _ => entry.2.height_encode_le

end PulseTimeline
