import PulseTimeline.Proofs.Run.Steps
import PulseTimeline.Proofs.Store.Soundness

set_option autoImplicit false

/-! # Elements that share a qubit

If sharing a qubit is transitive, it divides the elements into groups, and a restart is about one
whole group: it aligns the group to one instant and closes a segment of each element there. So all
of a group have closed segments of the same durations. For this to survive the late creation of
timelines it has to hold of the timelines that untouched elements would begin with as well: once
an element has a closed segment, no element of its group is untouched. -/

namespace PulseTimeline

/-- Sharing a qubit is transitive among the configured elements. -/
def Setup.SharingTransitive (setup : Setup) : Prop :=
  ∀ a b c, (setup.hardware.element? a).isSome → (setup.hardware.element? b).isSome →
    (setup.hardware.element? c).isSome → b ∈ setup.qubits.sharing a →
      c ∈ setup.qubits.sharing b → c ∈ setup.qubits.sharing a

namespace Store

/-- All timelines are sound, and those of elements that share a qubit have closed segments of the
    same durations. -/
structure Synchronized (setup : Setup) (store : Store) : Prop where
  sound : store.Sound setup.hardware
  together : ∀ a b t u, b ∈ setup.qubits.sharing a →
    store.timeline? setup.hardware a = some t → store.timeline? setup.hardware b = some u →
      t.closedDurations = u.closedDurations

variable {setup : Setup} {store next : Store}

theorem synchronized_empty (setup : Setup) : Store.empty.Synchronized setup where
  sound := sound_empty setup.hardware
  together := by
    intro a b t u _ ht hu
    obtain ⟨first, -, rfl⟩ := timeline?_empty_eq_some ht
    obtain ⟨second, -, rfl⟩ := timeline?_empty_eq_some hu
    rfl

/-- A permitted access closes no segment. -/
theorem closedDurations_of_access
    (h : Access setup.hardware (Timeline.Call.Permitted setup.settings) store next)
    {channel : String} {later : Timeline}
    (hlater : next.timeline? setup.hardware channel = some later) :
    ∃ earlier, store.timeline? setup.hardware channel = some earlier
      ∧ later.closedDurations = earlier.closedDurations := by
  rcases h.timeline? channel with hsame | ⟨earlier, call, hpermitted, hearlier, hcalled⟩
  · exact ⟨later, hsame ▸ hlater, rfl⟩
  · rw [hcalled] at hlater
    cases hlater
    exact ⟨earlier, hearlier, Timeline.closedDurations_stateAfter hpermitted earlier⟩

/-- Elements that share a qubit are both in the group of a restart, or neither is. -/
theorem mem_restartGroup_of_shared (htransitive : setup.SharingTransitive) {channel a b : String}
    (hchannel : (setup.hardware.element? channel).isSome)
    (ha : (setup.hardware.element? a).isSome) (hb : (setup.hardware.element? b).isSome)
    (hshared : b ∈ setup.qubits.sharing a) (hgroup : a ∈ restartGroup setup channel) :
    b ∈ restartGroup setup channel := by
  have hsharing := ((mem_restartGroup_iff setup channel a).1 hgroup).1
  have hreached := htransitive channel a b hchannel ha hb hsharing hshared
  exact (mem_restartGroup_iff setup channel b).2 ⟨hreached, Or.inr hb⟩

/-- What a restart does to the closed durations: each element of the group has one more, the same
    for all of them. -/
theorem Sound.closedDurations_of_restart (h : store.Sound setup.hardware) {channel : String}
    (hrun : (restartSharing setup channel).run store = .ok () next) :
    ∃ time, ∀ other later, next.timeline? setup.hardware other = some later →
      ∃ earlier, store.timeline? setup.hardware other = some earlier
        ∧ later.closedDurations = if other ∈ restartGroup setup channel
            then earlier.closedDurations ++ [time] else earlier.closedDurations := by
  have hview := find?_restartSharing hrun
  refine ⟨store.furthest (restartGroup setup channel), ?_⟩
  intro other later hlater
  by_cases hgroup : other ∈ restartGroup setup channel
  · obtain ⟨earlier, hearlier, hreach, hrestarted⟩ := (hview other).1 hgroup
    rw [timeline?_of_find? hrestarted] at hlater
    cases hlater
    refine ⟨earlier, hearlier, ?_⟩
    rw [if_pos hgroup]
    exact (h.timelines other earlier hearlier).closedDurations_restart hreach
  · rw [timeline?_congr setup.hardware ((hview other).2 hgroup)] at hlater
    exact ⟨later, hlater, by rw [if_neg hgroup]⟩

theorem Synchronized.restart (htransitive : setup.SharingTransitive)
    (h : store.Synchronized setup) {channel : String}
    (hrun : (restartSharing setup channel).run store = .ok () next) :
    next.Synchronized setup where
  sound := h.sound.step (.restarted channel hrun)
  together := by
    intro a b t u hshared ht hu
    obtain ⟨time, hdurations⟩ := h.sound.closedDurations_of_restart hrun
    obtain ⟨ta, hta, htclosed⟩ := hdurations a t ht
    obtain ⟨ub, hub, huclosed⟩ := hdurations b u hu
    have ha := h.sound.configured a ta hta
    have hb := h.sound.configured b ub hub
    -- The measured element has a timeline after the restart, so it is configured.
    have hchannel : (setup.hardware.element? channel).isSome := by
      obtain ⟨earlier, hearlier, -⟩ :=
        (find?_restartSharing hrun channel).1 (mem_restartGroup_self setup channel)
      exact h.sound.configured channel earlier hearlier
    -- Here transitivity is needed: the restart is about both elements or about neither.
    have hgroup : a ∈ restartGroup setup channel ↔ b ∈ restartGroup setup channel := by
      constructor
      · exact mem_restartGroup_of_shared htransitive hchannel ha hb hshared
      · exact mem_restartGroup_of_shared htransitive hchannel hb ha
          ((setup.qubits.mem_sharing_comm a b).1 hshared)
    simp only [htclosed, huclosed, hgroup, h.together a b ta ub hshared hta hub]

theorem Synchronized.step (htransitive : setup.SharingTransitive) (h : store.Synchronized setup)
    (hstep : Step setup store next) : next.Synchronized setup := by
  cases hstep with
  | restarted channel hrun => exact h.restart htransitive hrun
  | accessed haccess =>
      refine ⟨h.sound.access haccess, ?_⟩
      intro a b t u hshared ht hu
      obtain ⟨ta, hta, htclosed⟩ := closedDurations_of_access haccess ht
      obtain ⟨ub, hub, huclosed⟩ := closedDurations_of_access haccess hu
      rw [htclosed, huclosed]
      exact h.together a b ta ub hshared hta hub

end Store

namespace Run

theorem synchronized_step {setup : Setup} (htransitive : setup.SharingTransitive)
    {state next : RunState} (h : state.timelines.Synchronized setup)
    (hstep : Step setup state next) : next.timelines.Synchronized setup := by
  cases hstep with
  | played hplayed => exact h.step htransitive hplayed
  | drawn random => exact h
  | assigned _ => exact h
  | saved stream v => exact h

/-- **Synchrony.** Where sharing a qubit is transitive, the timelines of elements that share one
    have, in every state that a run reaches from the empty store, equally many segments and closed
    ones of equal durations, so that their current segments begin at the same instant. -/
theorem shared_qubits_stay_synchronized (setup : Setup) (htransitive : setup.SharingTransitive)
    (first state : RunState) (hfirst : first.timelines = .empty)
    (hreached : Reached {setup} first state) (a b : String)
    (hshared : b ∈ setup.qubits.sharing a) (t u : Timeline)
    (ht : state.timelines.find? a = some t) (hu : state.timelines.find? b = some u) :
    t.segmentCount = u.segmentCount
      ∧ (∀ k : Nat, (t.closed[k]?).map Segment.duration = (u.closed[k]?).map Segment.duration)
      ∧ t.beginning = u.beginning := by
  have hsynchronized : state.timelines.Synchronized setup := by
    refine hreached.invariant (P := fun state => state.timelines.Synchronized setup) ?_ ?_ ?_
    · rintro _ rfl middle next hstep hmiddle
      exact synchronized_step htransitive hmiddle hstep
    · intro middle random hmiddle
      exact hmiddle
    · rw [hfirst]
      exact Store.synchronized_empty setup
  have hdurations : t.closedDurations = u.closedDurations :=
    hsynchronized.together a b t u hshared (Store.timeline?_of_find? ht)
      (Store.timeline?_of_find? hu)
  refine ⟨?_, ?_, ?_⟩
  · have hlength := congrArg List.length hdurations
    simp only [Timeline.closedDurations, List.length_map] at hlength
    rw [Timeline.segmentCount, hlength, Timeline.segmentCount]
  · intro k
    rw [← List.getElem?_map, ← List.getElem?_map]
    show t.closedDurations[k]? = u.closedDurations[k]?
    rw [hdurations]
  · rw [Timeline.beginning, hdurations, Timeline.beginning]

/-- A machine with two elements on one qubit. -/
def neighbours : Setup where
  hardware := ⟨.ofList [("qe1", ⟨none, none, .empty, none⟩), ("rr1", ⟨none, none, .empty, none⟩)],
    .empty, .empty⟩
  qubits := .ofList [("qe1", [0]), ("rr1", [0])]
  settings := .standard

theorem sharingTransitive_neighbours : neighbours.SharingTransitive := by
  have hnames : ∀ name, (neighbours.hardware.element? name).isSome →
      name = "qe1" ∨ name = "rr1" := by
    intro name hname
    have hkeys := (Table.mem_keys_iff _ name).2 (Option.isSome_iff_ne_none.1 hname)
    have hlist : neighbours.hardware.elements.keys = ["qe1", "rr1"] := by decide
    simpa [hlist] using hkeys
  have hsharing : ∀ a, a = "qe1" ∨ a = "rr1" →
      neighbours.qubits.sharing a = ["qe1", "rr1"] := by
    rintro a (rfl | rfl) <;> decide
  intro a b c ha hb _ _ hbc
  rw [hsharing b (hnames b hb)] at hbc
  rw [hsharing a (hnames a ha)]
  exact hbc

/-- One element has ramped to zero when the other, which has done nothing yet, is measured: both
    close segments of four samples. -/
theorem synchrony_of_measured_neighbour :
    ∃ state t u, Reached {neighbours} ⟨.empty, .empty, .empty, .empty⟩ state
      ∧ state.timelines.find? "qe1" = some t ∧ state.timelines.find? "rr1" = some u
      ∧ t.closed = [.single [.rampToZero 4]] ∧ u.closed = [.single [.measure none, .delay 4]]
      ∧ t.beginning = u.beginning := by
  have hsetup : neighbours ∈ ({neighbours} : Set Setup) := Set.mem_singleton neighbours
  obtain ⟨state, hreached, hfirst, hsecond⟩ :
      ∃ state, Reached {neighbours} ⟨.empty, .empty, .empty, .empty⟩ state
        ∧ (state.timelines.find? "qe1").map Timeline.closed = some [.single [.rampToZero 4]]
        ∧ (state.timelines.find? "rr1").map Timeline.closed
          = some [.single [.measure none, .delay 4]] :=
    ⟨_, .executed hsetup (.measure "rr1" none) (.executed hsetup (.rampToZero "qe1" none) .start),
      by decide, by decide⟩
  obtain ⟨t, ht, htclosed⟩ := Option.map_eq_some_iff.1 hfirst
  obtain ⟨u, hu, huclosed⟩ := Option.map_eq_some_iff.1 hsecond
  refine ⟨state, t, u, hreached, ht, hu, htclosed, huclosed, ?_⟩
  exact (shared_qubits_stay_synchronized neighbours sharingTransitive_neighbours _ state rfl
    hreached "qe1" "rr1" (by decide) t u ht hu).2.2

end Run

end PulseTimeline
