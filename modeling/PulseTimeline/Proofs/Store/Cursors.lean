import Mathlib.Order.Bounds.Basic
import PulseTimeline.Proofs.Store.Steps
import PulseTimeline.Proofs.Timeline.Duration

set_option autoImplicit false

/-! # Cursors that can be aligned

If cursors tell how long the current segments last, they can all be brought to the furthest of them:
nobody has come further than that, and it is no longer than a duration can be. The search for it
fails only on an element that has no timeline and is not configured, and all that it leaves are
timelines that have just begun. The waits that follow are never refused. -/

namespace PulseTimeline

/-! ## Waiting until a time -/

namespace Timeline

variable {timeline : Timeline} {time : Nat}

/-- The current segment with a single delay up to a time, if that is still to come. -/
def currentUntil (timeline : Timeline) (time : Nat) : Segment :=
  if timeline.cursor < time then timeline.current.push (.delay (time - timeline.cursor))
  else timeline.current

theorem padded_eq (h : timeline.cursor ≤ time) :
    timeline.padded time
      = { timeline with current := timeline.currentUntil time, cursor := time } := by
  have hcurrent : (timeline.padded time).current = timeline.currentUntil time := by
    show (if 0 < time - timeline.cursor then _ else _) = _
    simp only [currentUntil, Nat.sub_pos_iff_lt]
  calc timeline.padded time
      = { timeline with
          current := (timeline.padded time).current
          cursor := (timeline.padded time).cursor } := rfl
    _ = { timeline with current := timeline.currentUntil time, cursor := time } := by
        rw [hcurrent, cursor_padded h]

/-- A segment whose duration the cursor tells lasts until the time that it waits for. -/
theorem duration_currentUntil (hexact : timeline.cursor = timeline.current.duration)
    (hle : timeline.cursor ≤ time) (htime : time ≤ maxDuration) :
    (timeline.currentUntil time).duration = time := by
  unfold currentUntil
  by_cases hlt : timeline.cursor < time
  · -- What is shorter than the greatest duration has been measured without any cut.
    have hcount : sampleCount timeline.current.leading = timeline.cursor := by
      rw [Segment.duration_eq] at hexact
      omega
    rw [if_pos hlt, Segment.duration_eq, Segment.leading_push, sampleCount_append,
      sampleCount_singleton, hcount]
    show min (timeline.cursor + (time - timeline.cursor)) maxDuration = time
    omega
  · rw [if_neg hlt]
    omega

end Timeline

namespace Store

variable {hardware : Hardware} {setup : Setup} {store next : Store} {channel : String}

/-! ## Cursors -/

/-- The cursor of every timeline tells how long its current segment lasts. -/
def CursorsExact (store : Store) : Prop :=
  ∀ channel timeline, store.find? channel = some timeline →
    timeline.cursor = timeline.current.duration

theorem cursorsExact_iff (store : Store) : store.CursorsExact
    ↔ ∀ entry ∈ store.timelines.entries, entry.2.cursor = entry.2.current.duration := by
  constructor
  · intro h entry hentry
    exact h entry.1 entry.2 ((Table.find?_eq_some_iff _ _ _).2 hentry)
  · intro h channel timeline hfound
    exact h (channel, timeline) ((Table.find?_eq_some_iff _ _ _).1 hfound)

instance (store : Store) : Decidable store.CursorsExact :=
  decidable_of_iff _ store.cursorsExact_iff.symm

/-- A timeline that is only begun has come nowhere, and its segment is empty. -/
theorem CursorsExact.cursor_eq (h : store.CursorsExact) {timeline : Timeline}
    (hfound : store.timeline? hardware channel = some timeline) :
    timeline.cursor = timeline.current.duration := by
  rcases timeline?_eq_some_iff.1 hfound with hfiled | ⟨-, element, -, rfl⟩
  · exact h channel timeline hfiled
  · have hempty : (Segment.empty element.kind).duration = 0 := by
      cases element.kind <;> rfl
    exact hempty.symm

theorem CursorsExact.cursorOf_le (h : store.CursorsExact) (channel : String) :
    store.cursorOf channel ≤ maxDuration := by
  cases hfiled : store.find? channel with
  | some timeline =>
      have hcursor := h channel timeline hfiled
      have hle := timeline.current.duration_le
      simp only [cursorOf, hfiled, Option.map_some, Option.getD_some]
      omega
  | none => simp [cursorOf, hfiled]

theorem CursorsExact.furthest_le (h : store.CursorsExact) (channels : List String) :
    store.furthest channels ≤ maxDuration := by
  induction channels with
  | nil => exact Nat.zero_le _
  | cons name rest ih =>
      rw [furthest_cons]
      exact Nat.max_le.2 ⟨h.cursorOf_le name, ih⟩

theorem exists_cursorOf_eq_furthest (store : Store) {channels : List String}
    (h : channels ≠ []) :
    ∃ channel ∈ channels, store.cursorOf channel = store.furthest channels := by
  induction channels with
  | nil => exact absurd rfl h
  | cons name rest ih =>
      rw [furthest_cons]
      by_cases hle : store.furthest rest ≤ store.cursorOf name
      · exact ⟨name, List.mem_cons_self .., (Nat.max_eq_left hle).symm⟩
      · -- Someone else has come further, so there is someone else.
        have hrest : rest ≠ [] := by
          rintro rfl
          exact hle (Nat.zero_le _)
        obtain ⟨channel, hmem, hcursor⟩ := ih hrest
        refine ⟨channel, List.mem_cons_of_mem name hmem, ?_⟩
        rw [hcursor, Nat.max_eq_right (by omega)]

theorem isGreatest_furthest (store : Store) {channels : List String} (h : channels ≠ []) :
    IsGreatest (store.cursorOf '' {channel | channel ∈ channels}) (store.furthest channels) := by
  obtain ⟨channel, hmem, hcursor⟩ := store.exists_cursorOf_eq_furthest h
  refine ⟨⟨channel, hmem, hcursor⟩, ?_⟩
  rintro _ ⟨other, hother, rfl⟩
  exact store.cursorOf_le_furthest hother

/-! ## What a search for the furthest cursor leaves -/

/-- Every element has what it had before, or is configured and has begun a timeline. -/
def OnlyCreates (hardware : Hardware) (store next : Store) : Prop :=
  ∀ channel, next.find? channel = store.find? channel
    ∨ store.find? channel = none ∧ ∃ element, hardware.element? channel = some element
      ∧ next.find? channel = some (.new channel element.kind)

theorem onlyCreates_refl (hardware : Hardware) (store : Store) : store.OnlyCreates hardware store :=
  fun _ => Or.inl rfl

theorem OnlyCreates.touched {middle : Store} (h : store.OnlyCreates hardware middle)
    (name : String) : store.OnlyCreates hardware (stateAfter (demand hardware name) middle) := by
  rw [stateAfter_demand]
  cases hfound : middle.timeline? hardware name with
  | none => exact h
  | some timeline =>
      intro channel
      by_cases heq : channel = name
      · subst heq
        rw [find?_put_self]
        rcases h channel with hsame | ⟨hnone, element, helement, hcreated⟩
        · -- Nothing has happened to the element, so this is the first touch if there is any.
          rw [timeline?_congr hardware hsame, timeline?_eq_some_iff] at hfound
          rcases hfound with hfiled | ⟨hnone, element, helement, rfl⟩
          · exact Or.inl hfiled.symm
          · exact Or.inr ⟨hnone, element, helement, rfl⟩
        · rw [timeline?_of_find? hcreated] at hfound
          exact Or.inr ⟨hnone, element, helement, hfound.symm⟩
      · rw [find?_put_of_ne middle timeline heq]
        exact h channel

theorem onlyCreates_latest {time : Nat} {names : List String} {e : TimelineError}
    (h : (latest hardware time names).run store = .error e next) :
    store.OnlyCreates hardware next := by
  have hsteps : Stepwise (Access hardware fun _ => False) (latest hardware time names) :=
    stepwise_latest time names
  have hkept : store.OnlyCreates hardware (stateAfter (latest hardware time names) store) := by
    refine hsteps.invariant (P := store.OnlyCreates hardware) ?_ (onlyCreates_refl hardware store)
    intro middle later haccess hmiddle
    cases haccess with
    | touched name => exact hmiddle.touched name
    | called _ _ hcall => exact hcall.elim
  rwa [stateAfter_of_error h] at hkept

theorem of_run_latest_eq_error {time : Nat} {names : List String} {e : TimelineError}
    (h : (latest hardware time names).run store = .error e next) :
    ∃ channel ∈ names, store.timeline? hardware channel = none ∧ e = .unknownChannel channel := by
  induction names generalizing store time with
  | nil => cases h
  | cons name rest ih =>
      rcases run_bind_eq_error.1 h with hdemand | ⟨timeline, middle, hdemand, hrest⟩
      · rw [run_demand] at hdemand
        cases hfound : store.timeline? hardware name with
        | some timeline =>
            rw [hfound] at hdemand
            cases hdemand
        | none =>
            rw [hfound] at hdemand
            cases hdemand
            exact ⟨name, List.mem_cons_self .., hfound, rfl⟩
      · obtain ⟨hfound, rfl⟩ := run_demand_eq_ok_iff.1 hdemand
        obtain ⟨channel, hmem, hnone, rfl⟩ := ih hrest
        rw [timeline?_put_of_timeline? hfound channel] at hnone
        exact ⟨channel, List.mem_cons_of_mem name hmem, hnone, rfl⟩

/-! ## Padding to a time that is not too long -/

/-- All of the elements have timelines, and none of them has come further than a time. -/
def AllWithin (hardware : Hardware) (time : Nat) (names : List String) (store : Store) : Prop :=
  ∀ name ∈ names, ∃ timeline, store.timeline? hardware name = some timeline
    ∧ timeline.cursor ≤ time

variable {time : Nat} {names : List String}

/-- A wait until a time is not refused, and brings nobody beyond it. -/
theorem AllWithin.edit_padTo (h : store.AllWithin hardware time names) (htime : time ≤ maxDuration)
    {name : String} (hname : name ∈ names) :
    ∃ next, (edit hardware name (Timeline.padTo time)).run store = .ok () next
      ∧ next.AllWithin hardware time names := by
  obtain ⟨timeline, hfound, hcursor⟩ := h name hname
  have haccepted : (Timeline.Call.delay (time - timeline.cursor)).refusal? timeline = none := by
    cases hwait : time - timeline.cursor with
    | zero => rfl
    | succ n =>
        refine (Timeline.overflow?_eq_none_iff timeline (n + 1)).2 ?_
        omega
  have hpadded : (Timeline.padTo time).run timeline = .ok () (timeline.padded time) :=
    Timeline.run_padTo_eq_ok_iff.2 ⟨haccepted, rfl⟩
  refine ⟨_, run_edit_eq_ok_iff.2 ⟨timeline, _, hfound, hpadded, rfl⟩, ?_⟩
  intro other hother
  by_cases heq : other = name
  · subst heq
    exact ⟨_, timeline?_put_self .., Nat.le_of_eq (Timeline.cursor_padded hcursor)⟩
  · rw [timeline?_put_of_ne hardware store _ heq]
    exact h other hother

theorem AllWithin.editAll_padTo (h : store.AllWithin hardware time names)
    (htime : time ≤ maxDuration) {waiting : List String} (hwaiting : waiting ⊆ names) :
    ∃ next, (editAll hardware (Timeline.padTo time) waiting).run store = .ok () next
      ∧ next.AllWithin hardware time names := by
  induction waiting generalizing store with
  | nil => exact ⟨store, rfl, h⟩
  | cons name rest ih =>
      obtain ⟨hname, hrest⟩ := List.cons_subset.1 hwaiting
      obtain ⟨middle, hfirst, hmiddle⟩ := h.edit_padTo htime hname
      obtain ⟨next, hlater, hnext⟩ := ih hmiddle hrest
      exact ⟨next, run_bind_eq_ok.2 ⟨(), middle, hfirst, hlater⟩, hnext⟩

/-- After the search all elements are within the time that it has found. -/
theorem allWithin_of_run_latest {last : Nat}
    (h : (latest hardware time names).run store = .ok last next) :
    next.AllWithin hardware last names := by
  obtain ⟨rfl, hview, -, hknown⟩ := of_run_latest_eq_ok h
  intro name hname
  obtain ⟨timeline, hfound⟩ := Option.ne_none_iff_exists'.1 (hknown name hname)
  have hcursor := store.cursorOf_le_furthest hname
  rw [cursorOf_of_timeline? hfound] at hcursor
  exact ⟨timeline, (hview name).trans hfound, by omega⟩

end Store

end PulseTimeline
