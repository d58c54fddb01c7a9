import PulseTimeline.Proofs.Store.Alignment

set_option autoImplicit false

/-! # The steps of a store

What a run does to its timelines are accesses to single ones, where an element is touched or an
operation is called on its timeline, and restarts of the elements that share a qubit. An alignment
is no more than touches and delays, also where it fails halfway. A restart fails only in its
alignment, so that it closes the segments of all its elements or of none. -/

namespace PulseTimeline

/-- The calls that a run makes on single timelines: no restart, and no pulse beyond the limit. -/
def Timeline.Call.Permitted (settings : Settings) : Timeline.Call → Prop
  | restart => False
  | playIq _ i _ => i.length ≤ settings.maxPulseSamples
  | _ => True

/-- The calls that play no pulse beyond the limit, restarts among them. -/
def Timeline.Call.WithinLimit (settings : Settings) : Timeline.Call → Prop
  | playIq _ i _ => i.length ≤ settings.maxPulseSamples
  | _ => True

theorem Timeline.Call.Permitted.withinLimit {settings : Settings} {call : Timeline.Call}
    (h : call.Permitted settings) : call.WithinLimit settings := by
  cases call with
  | playIq operation i q => exact h
  | _ => trivial

namespace Store

/-- An access to a single timeline, by one of the given calls or by none. -/
inductive Access (hardware : Hardware) (calls : Timeline.Call → Prop) (store : Store) :
    Store → Prop where
  | touched (channel : String) :
    Access hardware calls store (stateAfter (demand hardware channel) store)
  | called (channel : String) (call : Timeline.Call) (hcall : calls call) :
    Access hardware calls store (stateAfter (edit hardware channel call.edit) store)

/-- What a run does to the timelines. -/
inductive Step (setup : Setup) (store : Store) : Store → Prop where
  | accessed {next : Store}
    (h : Access setup.hardware (Timeline.Call.Permitted setup.settings) store next) :
    Step setup store next
  | restarted {next : Store} (channel : String)
    (h : (restartSharing setup channel).run store = .ok () next) : Step setup store next

variable {hardware : Hardware} {setup : Setup} {store : Store}

theorem Access.mono {calls calls' : Timeline.Call → Prop} {next : Store}
    (h : Access hardware calls store next) (hcalls : ∀ call, calls call → calls' call) :
    Access hardware calls' store next := by
  cases h with
  | touched channel => exact .touched channel
  | called channel call hcall => exact .called channel call (hcalls call hcall)

/-! ## What touches and edits leave -/

theorem stateAfter_demand (hardware : Hardware) (store : Store) (channel : String) :
    stateAfter (demand hardware channel) store = match store.timeline? hardware channel with
      | some timeline => store.put channel timeline
      | none => store := by
  rw [stateAfter, run_demand]
  cases store.timeline? hardware channel <;> rfl

theorem stateAfter_edit (hardware : Hardware) (store : Store) (channel : String)
    (change : Timeline.Edit) :
    stateAfter (edit hardware channel change) store = match store.timeline? hardware channel with
      | some timeline => store.put channel (stateAfter change timeline)
      | none => store := by
  cases hfound : store.timeline? hardware channel with
  | none =>
      have hdemand := run_demand hardware store channel
      rw [hfound] at hdemand
      exact stateAfter_of_error (run_bind_eq_error.2 (Or.inl hdemand))
  | some timeline =>
      show stateAfter _ store = store.put channel (stateAfter change timeline)
      cases hchange : change.run timeline with
      | ok u changed =>
          have hedit : (edit hardware channel change).run store = .ok () _ :=
            run_edit_eq_ok_iff.2 ⟨timeline, changed, hfound, hchange, rfl⟩
          rw [stateAfter_of_ok hchange]
          exact stateAfter_of_ok hedit
      | error e changed =>
          rw [stateAfter_of_error hchange]
          exact stateAfter_of_error (run_edit_eq_error hfound hchange)

/-! ## Composed operations -/

section

variable {calls : Timeline.Call → Prop}

theorem stepwise_demand (channel : String) :
    Stepwise (Access hardware calls) (demand hardware channel) :=
  fun _ => .single (.touched channel)

theorem stepwise_edit (channel : String) {call : Timeline.Call} (hcall : calls call) :
    Stepwise (Access hardware calls) (edit hardware channel call.edit) :=
  fun _ => .single (.called channel call hcall)

theorem stepwise_editAll {change : Timeline.Edit} (names : List String)
    (hedit : ∀ channel, Stepwise (Access hardware calls) (edit hardware channel change)) :
    Stepwise (Access hardware calls) (editAll hardware change names) := by
  induction names with
  | nil => exact stepwise_pure ()
  | cons name rest ih => exact stepwise_bind (hedit name) fun _ => ih

variable (hdelay : ∀ samples, calls (.delay samples))

include hdelay

/-- How long the padding is depends on the timeline that it finds. -/
theorem stepwise_padTo (time : Nat) (channel : String) :
    Stepwise (Access hardware calls) (edit hardware channel (Timeline.padTo time)) := by
  intro store
  rw [stateAfter_edit]
  cases hfound : store.timeline? hardware channel with
  | none => exact .refl
  | some timeline =>
      have hstep : Access hardware calls store _ :=
        .called channel (.delay (time - timeline.cursor)) (hdelay _)
      rw [stateAfter_edit, hfound] at hstep
      exact .single hstep

omit hdelay in
theorem stepwise_latest (time : Nat) (names : List String) :
    Stepwise (Access hardware calls) (latest hardware time names) := by
  induction names generalizing time with
  | nil => exact stepwise_pure time
  | cons name rest ih =>
      exact stepwise_bind (stepwise_demand name) fun timeline => ih (max time timeline.cursor)

theorem stepwise_align (names : List String) :
    Stepwise (Access hardware calls) (align hardware names) := by
  refine stepwise_bind stepwise_get fun store => ?_
  refine stepwise_bind (stepwise_latest 0 _) fun time => ?_
  exact stepwise_editAll _ (stepwise_padTo hdelay time)

end

/-- Access by access, a restart makes calls that runs do not make otherwise. -/
theorem stepwise_restarts (channel : String) :
    Stepwise (Access setup.hardware (Timeline.Call.WithinLimit setup.settings))
      (restartSharing setup channel) := by
  refine stepwise_bind (stepwise_align (fun _ => trivial) _) fun _ => ?_
  exact stepwise_editAll _ fun name => @stepwise_edit _ _ name .restart trivial

/-- What accesses keep, steps keep. -/
theorem Step.invariant {P : Store → Prop} {next : Store} (h : Step setup store next)
    (haccess : ∀ store next,
      Access setup.hardware (Timeline.Call.WithinLimit setup.settings) store next →
        P store → P next)
    (hstore : P store) : P next := by
  cases h with
  | accessed hpermitted =>
      have hwithin := hpermitted.mono fun _ => Timeline.Call.Permitted.withinLimit
      exact haccess store next hwithin hstore
  | restarted channel hrun =>
      have hkept := (stepwise_restarts channel).invariant haccess hstore
      rwa [stateAfter_of_ok hrun] at hkept

/-! ## Restarts -/

theorem stepwise_of_accesses {α : Type} {x : EStateM TimelineError Store α}
    (h : Stepwise (Access setup.hardware (Timeline.Call.Permitted setup.settings)) x) :
    Stepwise (Step setup) x :=
  h.mono fun _ _ => .accessed

/-- A restart is never refused, so restarts of elements that have timelines all succeed. -/
theorem exists_run_restarts {names : List String}
    (h : ∀ name ∈ names, store.timeline? hardware name ≠ none) :
    ∃ next, (editAll hardware Timeline.restart names).run store = .ok () next := by
  induction names generalizing store with
  | nil => exact ⟨store, rfl⟩
  | cons name rest ih =>
      obtain ⟨timeline, hfound⟩ := Option.ne_none_iff_exists'.1 (h name (List.mem_cons_self ..))
      have hfirst : (edit hardware name Timeline.restart).run store = .ok () _ :=
        run_edit_eq_ok_iff.2 ⟨timeline, _, hfound, rfl, rfl⟩
      have hrest : ∀ other ∈ rest, (store.put name
          (Timeline.Call.restart.result timeline)).timeline? hardware other ≠ none := by
        intro other hother
        by_cases heq : other = name
        · rw [heq, timeline?_put_self]
          simp
        · rw [timeline?_put_of_ne hardware store _ heq]
          exact h other (List.mem_cons_of_mem _ hother)
      obtain ⟨next, hnext⟩ := ih hrest
      exact ⟨next, run_bind_eq_ok.2 ⟨(), _, hfirst, hnext⟩⟩

/-- A restart that fails has failed in its alignment. -/
theorem run_align_of_run_restartSharing {next : Store} {channel : String} {e : TimelineError}
    (h : (restartSharing setup channel).run store = .error e next) :
    (align setup.hardware (restartGroup setup channel)).run store = .error e next := by
  rcases run_bind_eq_error.1 h with halign | ⟨u, aligned, halign, hrestart⟩
  · exact halign
  · -- After the alignment every element of the group has a timeline, so no restart can fail.
    have hview := find?_align halign
    rw [named_restartGroup] at hview
    have hpresent : ∀ name ∈ restartGroup setup channel,
        aligned.timeline? setup.hardware name ≠ none := by
      intro name hname
      obtain ⟨timeline, -, -, hfound⟩ := (hview name).1 hname
      rw [timeline?_of_find? hfound]
      simp
    obtain ⟨last, hlast⟩ := exists_run_restarts hpresent
    exact absurd (hrestart.symm.trans hlast) (by simp)

theorem stepwise_restartSharing (channel : String) :
    Stepwise (Step setup) (restartSharing setup channel) := by
  intro store
  cases hrun : (restartSharing setup channel).run store with
  | ok u next =>
      rw [stateAfter_of_ok hrun]
      exact .single (.restarted channel hrun)
  | error e next =>
      -- Nothing has been restarted: what has happened are the accesses of the alignment.
      have halign : Stepwise (Step setup)
          (align setup.hardware (restartGroup setup channel)) :=
        stepwise_of_accesses (stepwise_align (fun _ => trivial) _)
      rw [stateAfter_of_error hrun,
        ← stateAfter_of_error (run_align_of_run_restartSharing hrun)]
      exact halign store

end Store

end PulseTimeline
