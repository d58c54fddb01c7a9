import PulseTimeline.Proofs.Store.Steps
import PulseTimeline.Proofs.Timeline.Duration
import PulseTimeline.Proofs.Timeline.Representation

set_option autoImplicit false

/-! # Sound stores

All timelines of a run are sound, and they belong to configured elements. Accesses are seen one
element at a time: every element keeps its timeline but one, whose timeline is what a call leaves.
After a restart each element of the group has one more closed segment, and it ends at the instant
to which the group has been aligned. -/

namespace PulseTimeline

namespace Timeline

theorem Sound.padded {timeline : Timeline} {time : Nat} (h : timeline.Sound)
    (hreach : timeline.CanReach time) : (timeline.padded time).Sound :=
  h.result _ hreach.accepted

theorem Sound.restarted {timeline : Timeline} (h : timeline.Sound) :
    (Call.restart.result timeline).Sound :=
  h.result .restart rfl

/-- The segment that a restart closes ends at the time to which it has been padded. -/
theorem Sound.closedDurations_restart {timeline : Timeline} {time : Nat} (h : timeline.Sound)
    (hreach : timeline.CanReach time) :
    (Call.restart.result (timeline.padded time)).closedDurations
      = timeline.closedDurations ++ [time] := by
  have hclosed : (Call.restart.result (timeline.padded time)).closed
      = timeline.closed ++ [(timeline.padded time).current] := rfl
  -- The cursor of a sound timeline tells the duration of its current segment.
  have hlast : (timeline.padded time).current.duration = time := by
    rw [(h.padded hreach).current_duration, cursor_padded hreach.cursor_le]
  rw [closedDurations, hclosed, List.map_append, List.map_singleton, hlast, closedDurations]

theorem closedDurations_stateAfter {settings : Settings} {call : Call}
    (hpermitted : call.Permitted settings) (timeline : Timeline) :
    (stateAfter call.edit timeline).closedDurations = timeline.closedDurations := by
  refine stateAfter_edit (P := fun later => later.closedDurations = timeline.closedDurations) rfl ?_
  intro _
  cases call with
  | restart => exact absurd hpermitted id
  | _ => rfl

theorem Sound.stateAfter {timeline : Timeline} (h : timeline.Sound) (call : Call) :
    (stateAfter call.edit timeline).Sound :=
  stateAfter_edit (P := Sound) h (h.result call)

end Timeline

namespace Store

variable {hardware : Hardware} {setup : Setup} {store next : Store}

/-- An access leaves an element its timeline, or what a call makes of it. -/
theorem Access.timeline? {calls : Timeline.Call → Prop} (h : Access hardware calls store next)
    (channel : String) :
    next.timeline? hardware channel = store.timeline? hardware channel
      ∨ ∃ timeline call, calls call ∧ store.timeline? hardware channel = some timeline
        ∧ next.timeline? hardware channel = some (stateAfter call.edit timeline) := by
  cases h with
  | touched name =>
      rw [stateAfter_demand]
      cases hfound : store.timeline? hardware name with
      | none => exact Or.inl rfl
      | some timeline => exact Or.inl (timeline?_put_of_timeline? hfound channel)
  | called name call hcall =>
      rw [stateAfter_edit]
      cases hfound : store.timeline? hardware name with
      | none => exact Or.inl rfl
      | some timeline =>
          by_cases heq : channel = name
          · subst heq
            exact Or.inr ⟨timeline, call, hcall, hfound, timeline?_put_self ..⟩
          · exact Or.inl (timeline?_put_of_ne hardware store _ heq)

/-- What calls keep of the timelines that elements have or would begin with, an access keeps. -/
theorem Access.forall_timeline? {calls : Timeline.Call → Prop} {P : String → Timeline → Prop}
    (haccess : Access hardware calls store next)
    (hcall : ∀ channel timeline call, calls call → P channel timeline →
      P channel (stateAfter call.edit timeline))
    (hstore : ∀ channel timeline, store.timeline? hardware channel = some timeline →
      P channel timeline) :
    ∀ channel timeline, next.timeline? hardware channel = some timeline → P channel timeline := by
  intro channel timeline hfound
  rcases haccess.timeline? channel with hsame | ⟨earlier, call, hlawful, hearlier, hcalled⟩
  · exact hstore channel timeline (hsame ▸ hfound)
  · rw [hcalled] at hfound
    cases hfound
    exact hcall channel earlier call hlawful (hstore channel earlier hearlier)

/-- Every timeline is sound and belongs to a configured element. -/
structure Sound (hardware : Hardware) (store : Store) : Prop where
  configured : ∀ channel timeline, store.timeline? hardware channel = some timeline →
    (hardware.element? channel).isSome
  timelines : ∀ channel timeline, store.timeline? hardware channel = some timeline → timeline.Sound

theorem timeline?_empty_eq_some {channel : String} {timeline : Timeline}
    (h : Store.empty.timeline? hardware channel = some timeline) :
    ∃ element, hardware.element? channel = some element
      ∧ timeline = .new channel element.kind := by
  obtain ⟨element, helement, hnew⟩ := Option.map_eq_some_iff.1 h
  exact ⟨element, helement, hnew.symm⟩

theorem sound_empty (hardware : Hardware) : Store.empty.Sound hardware where
  configured := by
    intro channel timeline h
    obtain ⟨element, helement, -⟩ := timeline?_empty_eq_some h
    simp [helement]
  timelines := by
    intro channel timeline h
    obtain ⟨element, -, rfl⟩ := timeline?_empty_eq_some h
    exact Timeline.sound_new channel element.kind

theorem Sound.access {calls : Timeline.Call → Prop} (h : store.Sound hardware)
    (haccess : Access hardware calls store next) : next.Sound hardware where
  configured :=
    haccess.forall_timeline? (P := fun channel _ => (hardware.element? channel).isSome)
      (fun _ _ _ _ hconfigured => hconfigured) h.configured
  timelines :=
    haccess.forall_timeline? (P := fun _ timeline => timeline.Sound)
      (fun _ _ call _ hsound => hsound.stateAfter call) h.timelines

theorem Sound.step (h : store.Sound setup.hardware) (hstep : Step setup store next) :
    next.Sound setup.hardware :=
  hstep.invariant (fun _ _ haccess hstore => hstore.access haccess) h

end Store

end PulseTimeline
