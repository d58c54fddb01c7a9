import PulseTimeline.Proofs.Run.HandOff

set_option autoImplicit false

/-! # Filing by channel

A timeline names its channel, and a store has a name for each timeline. Runs file every timeline
under the channel that it names. The decoder of a store reads the timelines one by one and takes the
names from the document, without a look at the channels, so whether timelines are filed by channel
is up to the document: `filed_iff_members_name_channels` says of which documents it is so. -/

namespace PulseTimeline

/-! ## What a decoder of members reads -/

namespace Decode

variable {α : Type} {value : Json → Decoded α}

theorem nodup_of_keysDiffer {entries : List (String × Json)} (h : keysDiffer entries = true) :
    (entries.map Prod.fst).Nodup := by
  induction entries with
  | nil => exact List.nodup_nil
  | cons entry rest ih =>
      obtain ⟨key, content⟩ := entry
      rw [keysDiffer, Bool.and_eq_true, Bool.not_eq_true', List.any_eq_false] at h
      rw [List.map_cons, List.nodup_cons]
      refine ⟨fun hmem => ?_, ih h.2⟩
      obtain ⟨other, hother, heq⟩ := List.mem_map.1 hmem
      exact h.1 other hother (beq_iff_eq.2 heq)

theorem fields_object_eq_ok_iff {names : List String} {entries : List (String × Json)}
    {record : Fields} :
    fields names (.object entries) = .ok record
      ↔ keysDiffer (entries.filter fun entry => names.contains entry.1) = true
        ∧ record = ⟨entries.filter fun entry => names.contains entry.1, false⟩ :=
  checked_eq_ok_iff

theorem fields_array_eq_ok_iff {names : List String} {items : List Json} {record : Fields} :
    fields names (.array items) = .ok record
      ↔ items.length ≤ names.length ∧ record = ⟨names.zip items, true⟩ :=
  checked_eq_ok_iff

theorem members_eq_ok_iff {json : Json} {pairs : List (String × α)} :
    members value json = .ok pairs ↔ ∃ entries, json = .object entries
      ∧ List.Forall₂ (fun entry pair => pair.1 = entry.1 ∧ value entry.2 = .ok pair.2)
        entries pairs := by
  have hentry : ∀ (entry : String × Json) (pair : String × α),
      (do return (entry.1, ← value entry.2) : Decoded (String × α)) = .ok pair
        ↔ pair.1 = entry.1 ∧ value entry.2 = .ok pair.2 := by
    rintro ⟨key, content⟩ ⟨name, read⟩
    rw [except_bind_eq_ok]
    constructor
    · rintro ⟨result, hresult, h⟩
      cases h
      exact ⟨rfl, hresult⟩
    · rintro ⟨rfl, hread⟩
      exact ⟨read, hread, rfl⟩
  cases json with
  | object entries =>
      rw [members, mapM_eq_ok_iff_forall₂]
      simp only [hentry, Json.object.injEq, exists_eq_left']
  | _ =>
      constructor
      · intro h
        cases h
      · rintro ⟨_, hjson, -⟩
        cases hjson

/-- What is found among values that have been read has been read from what is found there. -/
theorem map_lookup_of_forall₂ {entries : List (String × Json)} {pairs : List (String × α)}
    (h : List.Forall₂ (fun entry pair => pair.1 = entry.1 ∧ value entry.2 = .ok pair.2)
      entries pairs) (name : String) :
    (pairs.lookup name).map .ok = (entries.lookup name).map value := by
  induction h with
  | nil => rfl
  | @cons entry pair _ _ hfirst _ ih =>
      obtain ⟨key, content⟩ := entry
      obtain ⟨_, read⟩ := pair
      obtain ⟨rfl, hread⟩ := hfirst
      rw [List.lookup_cons, List.lookup_cons]
      cases name == _ with
      | true => exact congrArg some hread.symm
      | false => exact ih

end Decode

/-! ## Channels that documents name -/

/-- The channel that a document of a timeline names: in the member for it or, where the fields are
    given in order, in the first place. -/
inductive Json.NamesChannel : Json → String → Prop where
  | member {members : List (String × Json)} {channel : String}
    (h : ("channel", .text channel) ∈ members) : NamesChannel (.object members) channel
  | first (channel : String) (others : List Json) :
    NamesChannel (.array (.text channel :: others)) channel

namespace Json

theorem namesChannel_object_iff (members : List (String × Json)) (channel : String) :
    (object members).NamesChannel channel ↔ ("channel", .text channel) ∈ members := by
  constructor
  · rintro ⟨h⟩
    exact h
  · exact .member

theorem namesChannel_array_iff (items : List Json) (channel : String) :
    (array items).NamesChannel channel ↔ items.head? = some (.text channel) := by
  constructor
  · rintro ⟨⟩
    rfl
  · intro h
    obtain ⟨others, rfl⟩ := List.head?_eq_some_iff.1 h
    exact .first channel others

end Json

namespace Timeline

variable {json : Json} {timeline : Timeline}

theorem sound_of_decode (h : decode json = .ok timeline) : timeline.Sound := by
  obtain ⟨record, -, hread⟩ := except_bind_eq_ok.1 h
  exact sound_of_toTimeline (mapError_eq_ok.1 hread)

/-- The field for the channel is read as the channel. -/
theorem required_channel_of_decode (h : decode json = .ok timeline) :
    ∃ record, Decode.fields ["channel", "kind", "segments", "phase"] json = .ok record
      ∧ record.required "channel" Decode.string = .ok timeline.channel := by
  obtain ⟨described, hdescribed, hread⟩ := except_bind_eq_ok.1 h
  obtain ⟨-, hrecord⟩ := (described.toTimeline_eq_ok_iff timeline).1 (mapError_eq_ok.1 hread)
  obtain ⟨record, hfields, hdescribed⟩ := except_bind_eq_ok.1 hdescribed
  obtain ⟨channel, hchannel, hdescribed⟩ := except_bind_eq_ok.1 hdescribed
  obtain ⟨kind, -, hdescribed⟩ := except_bind_eq_ok.1 hdescribed
  obtain ⟨segments, -, hdescribed⟩ := except_bind_eq_ok.1 hdescribed
  obtain ⟨phase, -, hdescribed⟩ := except_bind_eq_ok.1 hdescribed
  cases hdescribed
  have hsame : timeline.channel = channel := congrArg TimelineRecord.channel hrecord
  exact ⟨record, hfields, hsame ▸ hchannel⟩

theorem lookup_channel_of_required {record : Decode.Fields} {channel : String}
    (h : record.required "channel" Decode.string = .ok channel) :
    record.values.lookup "channel" = some (.text channel) := by
  unfold Decode.Fields.required at h
  split at h
  · next content hfound =>
      cases content <;> cases h
      exact hfound
  · cases h

/-- A timeline is of the channel that its document names, and of no other. -/
theorem namesChannel_iff_of_decode (h : decode json = .ok timeline) (name : String) :
    json.NamesChannel name ↔ timeline.channel = name := by
  obtain ⟨record, hrecord, hrequired⟩ := required_channel_of_decode h
  have hchannel := lookup_channel_of_required hrequired
  cases json with
  | object members =>
      obtain ⟨hdiffer, rfl⟩ := Decode.fields_object_eq_ok_iff.1 hrecord
      -- The known members have different keys, so one of them only is for the channel.
      have hfound := Table.find?_eq_some_iff ⟨_, Decode.nodup_of_keysDiffer hdiffer⟩ "channel"
      simp only [Table.find?, hchannel, List.mem_filter] at hfound
      rw [Json.namesChannel_object_iff]
      simpa [eq_comm] using (hfound (.text name)).symm
  | array items =>
      obtain ⟨-, rfl⟩ := Decode.fields_array_eq_ok_iff.1 hrecord
      rw [Json.namesChannel_array_iff]
      cases items with
      | nil => cases hchannel
      | cons first others =>
          have hfirst : first = .text timeline.channel := by simpa using hchannel
          simp [hfirst]
  | _ => cases hrecord

theorem Reached.channel_eq {channel : String} {kind : ChannelKind}
    (h : Reached (new channel kind) timeline) : timeline.channel = channel :=
  h.invariant (P := fun timeline => timeline.channel = channel) (fun _ _ hchannel _ => hchannel) rfl

end Timeline

/-! ## Stores -/

namespace Store

/-- Each timeline is filed under the channel that it is of. -/
def FiledByChannel (store : Store) : Prop :=
  ∀ name timeline, store.find? name = some timeline → timeline.channel = name

theorem Originated.filedByChannel {store : Store} (h : store.Originated) :
    store.FiledByChannel := by
  intro name timeline hfound
  obtain ⟨kind, hreached⟩ := h name timeline hfound
  exact hreached.channel_eq

variable {json : Json} {store : Store}

/-- A document of a store is an object, and what is filed under a name is read from the last of its
    members of that name. -/
theorem find?_of_decode (h : decode json = .ok store) :
    ∃ entries, json = .object entries
      ∧ ∀ name, (store.find? name).map .ok = (entries.reverse.lookup name).map Timeline.decode := by
  obtain ⟨table, htable, hstore⟩ := except_bind_eq_ok.1 h
  cases hstore
  obtain ⟨pairs, hpairs, hmade⟩ := except_bind_eq_ok.1 htable
  cases hmade
  obtain ⟨entries, rfl, hread⟩ := Decode.members_eq_ok_iff.1 hpairs
  refine ⟨entries, rfl, fun name => ?_⟩
  rw [find?, Table.find?_ofList]
  exact Decode.map_lookup_of_forall₂ (List.forall₂_reverse_iff.2 hread) name

/-- What is filed has been read from a member of the document. -/
theorem exists_content_of_find? {entries : List (String × Json)}
    (hfind : ∀ name, (store.find? name).map .ok
      = (entries.reverse.lookup name).map Timeline.decode)
    {name : String} {timeline : Timeline} (h : store.find? name = some timeline) :
    ∃ content, entries.reverse.lookup name = some content
      ∧ Timeline.decode content = .ok timeline := by
  have hmap := hfind name
  rw [h] at hmap
  exact Option.map_eq_some_iff.1 hmap.symm

/-- **A store is filed as its document is.** A document from which a store is read is an object, and
    what is filed under a name is what the last member of that name is read as: a sound timeline.
    Every timeline is filed under its own channel exactly if each of those members names its own key
    as the channel. So it is with the document of a store that a run makes, from which the very same
    store is read. -/
theorem filed_iff_members_name_channels (h : decode json = .ok store) :
    (∃ entries, json = .object entries
      ∧ (∀ name, (store.find? name).map .ok
        = (entries.reverse.lookup name).map Timeline.decode)
      ∧ (∀ name timeline, store.find? name = some timeline → timeline.Sound)
      ∧ (store.FiledByChannel ↔ ∀ name content, entries.reverse.lookup name = some content →
        content.NamesChannel name))
    ∧ ∀ (program : Program) setup outcome, program.run setup = .ok outcome →
      json = outcome.timelines.encode → store = outcome.timelines ∧ store.FiledByChannel := by
  constructor
  · obtain ⟨entries, hjson, hfind⟩ := find?_of_decode h
    refine ⟨entries, hjson, hfind, fun name timeline hfound => ?_, ?_, ?_⟩
    · obtain ⟨content, -, hcontent⟩ := exists_content_of_find? hfind hfound
      exact Timeline.sound_of_decode hcontent
    · intro hfiled name content hlast
      have hmap := hfind name
      rw [hlast] at hmap
      obtain ⟨timeline, hfound, hcontent⟩ := Option.map_eq_some_iff.1 hmap
      rw [Timeline.namesChannel_iff_of_decode hcontent.symm]
      exact hfiled name timeline hfound
    · intro hnames name timeline hfound
      obtain ⟨content, hlast, hcontent⟩ := exists_content_of_find? hfind hfound
      exact (Timeline.namesChannel_iff_of_decode hcontent name).1 (hnames name content hlast)
  · rintro program setup outcome hrun rfl
    rw [decode_encode (Program.sound_of_run hrun)] at h
    cases h
    exact ⟨rfl, (Program.originated_of_run hrun).filedByChannel⟩

/-- A document of a timeline of two signals on which nothing has happened. -/
def unplayedTimeline (channel : String) : Json :=
  .object [("channel", .text channel), ("kind", .text "iq"),
    ("segments", .array [.object [("kind", .text "iq"), ("i", .array []), ("q", .array [])]]),
    ("phase", .float 0.0)]

/-- A store whose first member, of the wrong channel, is replaced by the last one, in which the
    fields are given in order. -/
def refiledStore : Json :=
  .object [("q1", unplayedTimeline "q2"), ("q2", unplayedTimeline "q2"),
    ("q1", .array [.text "q1", .text "single",
      .array [.object [("kind", .text "single"), ("instructions", .array [])]], .float 0.0])]

/-- What is replaced does not matter. -/
theorem filed_of_refiledStore :
    ∃ store, decode refiledStore = .ok store ∧ store.channels = ["q1", "q2"]
      ∧ store.FiledByChannel := by
  refine ⟨_, rfl, by decide, ?_⟩
  have hread : decode refiledStore = .ok _ := rfl
  obtain ⟨⟨entries, hentries, -, -, hiff⟩, -⟩ := filed_iff_members_name_channels hread
  cases hentries
  refine hiff.2 fun name content hlast => ?_
  by_cases hfirst : name = "q1"
  · subst hfirst
    cases hlast
    exact .first "q1" _
  · by_cases hsecond : name = "q2"
    · subst hsecond
      cases hlast
      exact .member List.mem_cons_self
    · simp [List.lookup_cons, beq_eq_false_iff_ne.2 hfirst, beq_eq_false_iff_ne.2 hsecond] at hlast

/-- The decoder accepts a timeline of one channel under the name of another one. -/
theorem misfiled_timeline_is_accepted :
    ∃ store timeline, decode (.object [("q1", unplayedTimeline "q2")]) = .ok store
      ∧ store.find? "q1" = some timeline ∧ timeline.channel = "q2"
      ∧ ¬store.FiledByChannel := by
  refine ⟨_, .new "q2" .iq, rfl, rfl, rfl, fun hfiled => ?_⟩
  have hchannel := hfiled "q1" (.new "q2" .iq) rfl
  simp [Timeline.new] at hchannel

end Store

end PulseTimeline
