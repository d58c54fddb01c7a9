import PulseTimeline.Proofs.Store.Access
import PulseTimeline.Proofs.Timeline.Calls

set_option autoImplicit false

/-! # What aligning and restarting do

An alignment finds the latest cursor among its elements and pads each of them up to it; naming an
element twice does no harm, because the second padding is empty. The restart that follows a
measurement aligns the elements that share a qubit with the measured one and closes the segment of
each of them once. -/

namespace PulseTimeline

/-! ## Padding -/

namespace Timeline

/-- The timeline after waiting until a time. -/
def padded (timeline : Timeline) (time : Nat) : Timeline :=
  (Call.delay (time - timeline.cursor)).result timeline

theorem padded_cursor (timeline : Timeline) : timeline.padded timeline.cursor = timeline := by
  rw [padded, Nat.sub_self]
  rfl

theorem cursor_padded {timeline : Timeline} {time : Nat} (h : timeline.cursor ≤ time) :
    (timeline.padded time).cursor = time := by
  show timeline.cursor + (time - timeline.cursor) = time
  omega

/-- A timeline that can reach a time has not come further, and is not refused the wait until
    then. -/
structure CanReach (timeline : Timeline) (time : Nat) : Prop where
  cursor_le : timeline.cursor ≤ time
  accepted : (Call.delay (time - timeline.cursor)).refusal? timeline = none

theorem run_padTo_eq_ok_iff {timeline changed : Timeline} {time : Nat} {u : Unit} :
    (padTo time).run timeline = .ok u changed
      ↔ (Call.delay (time - timeline.cursor)).refusal? timeline = none
        ∧ changed = timeline.padded time :=
  run_edit_eq_ok_iff timeline changed (.delay (time - timeline.cursor)) u

/-- Padding again to the same time adds nothing. -/
theorem padded_of_times_padTo {timeline changed : Timeline} {time n : Nat} {u : Unit}
    (hcursor : timeline.cursor ≤ time)
    (h : (Edit.times (padTo time) (n + 1)).run timeline = .ok u changed) :
    timeline.CanReach time ∧ changed = timeline.padded time := by
  induction n generalizing timeline with
  | zero =>
      obtain ⟨u', middle, hfirst, hrest⟩ := run_bind_eq_ok.1 h
      obtain ⟨-, rfl⟩ := run_pure_eq_ok.1 hrest
      obtain ⟨haccepted, hpadded⟩ := run_padTo_eq_ok_iff.1 hfirst
      exact ⟨⟨hcursor, haccepted⟩, hpadded⟩
  | succ n ih =>
      obtain ⟨u', middle, hfirst, hrest⟩ := run_bind_eq_ok.1 h
      obtain ⟨haccepted, hpadded⟩ := run_padTo_eq_ok_iff.1 hfirst
      -- The first padding reaches the time, so the others wait for nothing.
      have htime : middle.cursor = time := hpadded ▸ cursor_padded hcursor
      have hlast := (ih (Nat.le_of_eq htime) hrest).2
      have hagain : middle.padded time = middle := htime ▸ padded_cursor middle
      rw [hagain, hpadded] at hlast
      exact ⟨⟨hcursor, haccepted⟩, hlast⟩

end Timeline

/-! ## Alignments -/

namespace Store

variable {hardware : Hardware} {store next : Store}

/-- The elements that a list stands for: itself, or all touched elements if it is empty. -/
def named (store : Store) (names : List String) : List String :=
  if names.isEmpty then store.channels else names

/-- How far an element has come in its current segment; an untouched one has not moved. -/
def cursorOf (store : Store) (channel : String) : Nat :=
  ((store.find? channel).map Timeline.cursor).getD 0

/-- The furthest that one of the elements has come. -/
def furthest (store : Store) (channels : List String) : Nat :=
  (channels.map store.cursorOf).foldr max 0

theorem cursorOf_eq (store : Store) (hardware : Hardware) (channel : String) :
    store.cursorOf channel
      = ((store.timeline? hardware channel).map Timeline.cursor).getD 0 := by
  rw [cursorOf, timeline?]
  cases store.find? channel with
  | some timeline => rfl
  | none => cases hardware.element? channel <;> rfl

theorem cursorOf_of_timeline? {channel : String} {timeline : Timeline}
    (h : store.timeline? hardware channel = some timeline) :
    store.cursorOf channel = timeline.cursor := by
  rw [cursorOf_eq store hardware, h]
  rfl

theorem furthest_cons (store : Store) (name : String) (rest : List String) :
    store.furthest (name :: rest) = max (store.cursorOf name) (store.furthest rest) := rfl

theorem furthest_congr
    (h : ∀ channel, next.timeline? hardware channel = store.timeline? hardware channel)
    (channels : List String) : next.furthest channels = store.furthest channels := by
  have hcursors : next.cursorOf = store.cursorOf := by
    funext channel
    rw [cursorOf_eq next hardware, cursorOf_eq store hardware, h channel]
  rw [furthest, hcursors, furthest]

theorem cursorOf_le_furthest (store : Store) {channels : List String} {channel : String}
    (h : channel ∈ channels) : store.cursorOf channel ≤ store.furthest channels := by
  induction channels with
  | nil => exact absurd h List.not_mem_nil
  | cons name rest ih =>
      rw [furthest_cons]
      rcases List.mem_cons.1 h with rfl | h
      · exact Nat.le_max_left _ _
      · exact Nat.le_trans (ih h) (Nat.le_max_right _ _)

/-- The search for the latest cursor finds it. It creates timelines, but that does not show. -/
theorem of_run_latest_eq_ok {time last : Nat} {names : List String}
    (h : (latest hardware time names).run store = .ok last next) :
    last = max time (store.furthest names)
      ∧ (∀ channel, next.timeline? hardware channel = store.timeline? hardware channel)
      ∧ (∀ channel, channel ∉ names → next.find? channel = store.find? channel)
      ∧ ∀ channel ∈ names, store.timeline? hardware channel ≠ none := by
  induction names generalizing store time with
  | nil =>
      obtain ⟨rfl, rfl⟩ := run_pure_eq_ok.1 h
      exact ⟨(Nat.max_zero time).symm, fun _ => rfl, fun _ _ => rfl, by simp⟩
  | cons name rest ih =>
      obtain ⟨timeline, middle, hdemand, hrest⟩ := run_bind_eq_ok.1 h
      obtain ⟨hfound, rfl⟩ := run_demand_eq_ok_iff.1 hdemand
      have hput := timeline?_put_of_timeline? hfound
      obtain ⟨hlast, hview, hothers, hknown⟩ := ih hrest
      refine ⟨?_, fun channel => (hview channel).trans (hput channel), ?_, ?_⟩
      · rw [hlast, furthest_congr hput, furthest_cons, cursorOf_of_timeline? hfound, Nat.max_assoc]
      · intro channel hchannel
        rw [List.mem_cons, not_or] at hchannel
        rw [hothers channel hchannel.2, find?_put_of_ne store timeline hchannel.1]
      · intro channel hchannel
        rcases List.mem_cons.1 hchannel with rfl | hchannel
        · simp [hfound]
        · rw [← hput channel]
          exact hknown channel hchannel

theorem run_align (hardware : Hardware) (names : List String) (store : Store) :
    (align hardware names).run store = (do
      let time ← latest hardware 0 (store.named names)
      editAll hardware (Timeline.padTo time) (store.named names)).run store := rfl

/-- After an alignment each of its elements has been padded to the furthest cursor among them, and
    no other has changed. -/
theorem find?_align {names : List String}
    (h : (align hardware names).run store = .ok () next) (channel : String) :
    (channel ∈ store.named names → ∃ timeline, store.timeline? hardware channel = some timeline
        ∧ timeline.CanReach (store.furthest (store.named names))
        ∧ next.find? channel = some (timeline.padded (store.furthest (store.named names))))
      ∧ (channel ∉ store.named names → next.find? channel = store.find? channel) := by
  rw [run_align] at h
  obtain ⟨time, middle, hlatest, hpad⟩ := run_bind_eq_ok.1 h
  obtain ⟨htime, hview, hothers, -⟩ := of_run_latest_eq_ok hlatest
  rw [Nat.zero_max] at htime
  subst htime
  constructor
  · intro hnamed
    -- The search has filed timelines in `middle`, but the padding finds what was there before.
    obtain ⟨timeline, changed, hfound, htimes, hnext⟩ := find?_editAll_of_mem hpad hnamed
    rw [hview channel] at hfound
    have hcursor := store.cursorOf_le_furthest hnamed
    rw [cursorOf_of_timeline? hfound] at hcursor
    obtain ⟨n, hcount⟩ := Nat.exists_eq_succ_of_ne_zero
      (Nat.pos_iff_ne_zero.1 (List.count_pos_iff.2 hnamed))
    rw [hcount] at htimes
    obtain ⟨hreach, hchanged⟩ := Timeline.padded_of_times_padTo hcursor htimes
    exact ⟨timeline, hfound, hreach, hchanged ▸ hnext⟩
  · intro hnamed
    rw [find?_editAll_of_not_mem hpad hnamed, hothers channel hnamed]

/-! ## Restarts -/

variable {setup : Setup} {channel : String}

theorem mem_restartGroup_iff (setup : Setup) (channel other : String) :
    other ∈ restartGroup setup channel ↔ other ∈ setup.qubits.sharing channel
      ∧ (other = channel ∨ (setup.hardware.element? other).isSome) := by
  simp [restartGroup]

theorem mem_restartGroup_self (setup : Setup) (channel : String) :
    channel ∈ restartGroup setup channel :=
  (mem_restartGroup_iff setup channel channel).2
    ⟨setup.qubits.mem_sharing_self channel, Or.inl rfl⟩

theorem nodup_restartGroup (setup : Setup) (channel : String) :
    (restartGroup setup channel).Nodup :=
  (setup.qubits.nodup_sharing channel).sublist List.filter_sublist

/-- The group of a restart is never empty, so it is what the alignment is about. -/
theorem named_restartGroup (store : Store) (setup : Setup) (channel : String) :
    store.named (restartGroup setup channel) = restartGroup setup channel := by
  have hself := mem_restartGroup_self setup channel
  rw [named, if_neg]
  intro hempty
  rw [List.isEmpty_iff.1 hempty] at hself
  exact List.not_mem_nil hself

/-- After a restart each element of the group has been padded to the furthest cursor of the group
    and has begun its next segment, and no other has changed. -/
theorem find?_restartSharing
    (h : (restartSharing setup channel).run store = .ok () next) (other : String) :
    (other ∈ restartGroup setup channel →
        ∃ timeline, store.timeline? setup.hardware other = some timeline
          ∧ timeline.CanReach (store.furthest (restartGroup setup channel))
          ∧ next.find? other = some (Timeline.Call.restart.result
            (timeline.padded (store.furthest (restartGroup setup channel)))))
      ∧ (other ∉ restartGroup setup channel → next.find? other = store.find? other) := by
  obtain ⟨u, aligned, halign, hrestart⟩ := run_bind_eq_ok.1 h
  have hview := find?_align halign other
  rw [named_restartGroup] at hview
  constructor
  · intro hgroup
    -- The group names each element once, so each is restarted once.
    obtain ⟨timeline, hfound, hreach, haligned⟩ := hview.1 hgroup
    obtain ⟨padded, restarted, hpadded, htimes, hnext⟩ := find?_editAll_of_mem hrestart hgroup
    rw [timeline?_of_find? haligned] at hpadded
    cases hpadded
    rw [List.Nodup.count (nodup_restartGroup setup channel), if_pos hgroup] at htimes
    cases htimes
    exact ⟨timeline, hfound, hreach, hnext⟩
  · intro hgroup
    rw [find?_editAll_of_not_mem hrestart hgroup, hview.2 hgroup]

end Store

end PulseTimeline
