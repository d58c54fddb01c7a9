import PulseTimeline.Proofs.Simulation
import PulseTimeline.Proofs.Statement.Projection
import PulseTimeline.Proofs.Store.Footprint

set_option autoImplicit false

/-! # Stores that agree on a channel

What is done to the timelines of other channels keeps a store within the stores that agree with it
on one channel, and what is done to the channel itself leads from stores that agree to stores that
agree. A change of several elements does some of both. -/

namespace PulseTimeline

namespace Store

/-- The stores hold the same timeline of a channel, or both hold none. -/
def AgreesOn (channel : String) (store other : Store) : Prop :=
  store.find? channel = other.find? channel

variable {hardware : Hardware} {channel element : String} {store other : Store}

theorem equivalence_agreesOn (channel : String) : Equivalence (AgreesOn channel) :=
  ⟨fun _ => rfl, Eq.symm, Eq.trans⟩

theorem AgreesOn.timeline?_eq (h : store.AgreesOn channel other) (hardware : Hardware) :
    store.timeline? hardware channel = other.timeline? hardware channel := by
  rw [timeline?, timeline?, h]

theorem agreesOn_put (store other : Store) (channel : String) (timeline : Timeline) :
    (store.put channel timeline).AgreesOn channel (other.put channel timeline) := by
  rw [AgreesOn, find?_put_self, find?_put_self]

theorem simulated_demand (hardware : Hardware) (channel : String) :
    Simulated (AgreesOn channel) (demand hardware channel) (demand hardware channel) := by
  intro store other next timeline hagrees hrun
  obtain ⟨hfound, rfl⟩ := run_demand_eq_ok_iff.1 hrun
  rw [hagrees.timeline?_eq hardware] at hfound
  exact ⟨_, run_demand_eq_ok_iff.2 ⟨hfound, rfl⟩, agreesOn_put store other channel timeline⟩

theorem simulated_edit (hardware : Hardware) (channel : String) (change : Timeline.Edit) :
    Simulated (AgreesOn channel) (edit hardware channel change) (edit hardware channel change) := by
  intro store other next u hagrees hrun
  obtain ⟨timeline, changed, hfound, hchange, rfl⟩ := run_edit_eq_ok_iff.1 hrun
  rw [hagrees.timeline?_eq hardware] at hfound
  exact ⟨_, run_edit_eq_ok_iff.2 ⟨timeline, changed, hfound, hchange, rfl⟩,
    agreesOn_put store other channel changed⟩

/-- Filing timelines under other names does not show on a channel. -/
theorem stepwise_of_files {α : Type} (names : String → Prop) {x : EStateM TimelineError Store α}
    (h : Stepwise (Files names) x) (hother : ¬ names channel) : Stepwise (AgreesOn channel) x :=
  h.mono fun _ _ hfiles => (hfiles.find?_eq hother).symm

theorem stepwise_demand_of_ne (h : channel ≠ element) :
    Stepwise (AgreesOn channel) (demand hardware element) :=
  stepwise_of_files (fun name => name = element) (demand_files rfl) h

theorem stepwise_edit_of_ne (change : Timeline.Edit) (h : channel ≠ element) :
    Stepwise (AgreesOn channel) (edit hardware element change) :=
  stepwise_of_files (fun name => name = element) (edit_files change rfl) h

/-- Of the elements that are changed, only the channel itself shows, as often as it is named. -/
theorem simulated_editAll (hardware : Hardware) (channel : String) (change : Timeline.Edit)
    (names : List String) :
    Simulated (AgreesOn channel) (editAll hardware change names)
      (editAll hardware change (Statement.occurrences channel names)) := by
  induction names with
  | nil => exact simulated_pure ()
  | cons name rest ih =>
      by_cases hname : channel = name
      · rw [← hname, Statement.occurrences_cons_self]
        exact simulated_bind (simulated_edit hardware channel change) fun _ => ih
      · rw [Statement.occurrences_cons_of_ne hname]
        exact simulated_skip (equivalence_agreesOn channel) (stepwise_edit_of_ne change hname)
          fun _ => ih

theorem stepwise_editAll_of_not_mem {names : List String} (change : Timeline.Edit)
    (h : channel ∉ names) : Stepwise (AgreesOn channel) (editAll hardware change names) :=
  stepwise_of_files (fun name => name ∈ names) (editAll_files change fun _ => id) h

/-! ## Several channels -/

/-- The stores agree on each of some channels. -/
def AgreesOnAll (names : List String) (store other : Store) : Prop :=
  ∀ name ∈ names, store.AgreesOn name other

variable {names : List String}

/-- What does the same on one channel, and nothing on the others, does the same on all. -/
theorem simulated_of_files {α : Type} {x : EStateM TimelineError Store α} (hname : channel ∈ names)
    (hone : Simulated (AgreesOn channel) x x)
    (hothers : ∀ {other}, other ≠ channel → Stepwise (AgreesOn other) x) :
    Simulated (AgreesOnAll names) x x := by
  intro store other next a hagrees hrun
  obtain ⟨last, hlast, hsame⟩ := hone (hagrees channel hname) hrun
  refine ⟨last, hlast, fun name hmem => ?_⟩
  by_cases heq : name = channel
  · rw [heq]
    exact hsame
  · -- Neither run has touched the timeline of this name.
    have hkept := (hothers heq).related (equivalence_agreesOn name)
    have hnext := hkept store
    have hlast' := hkept other
    rw [stateAfter_of_ok hrun] at hnext
    rw [stateAfter_of_ok hlast] at hlast'
    exact hnext.symm.trans ((hagrees name hmem).trans hlast')

theorem simulated_edit_all (change : Timeline.Edit) (hname : channel ∈ names) :
    Simulated (AgreesOnAll names) (edit hardware channel change) (edit hardware channel change) :=
  simulated_of_files hname (simulated_edit hardware channel change)
    fun hother => stepwise_edit_of_ne change hother

theorem simulated_editAll_all (change : Timeline.Edit) {channels : List String}
    (hnames : channels ⊆ names) :
    Simulated (AgreesOnAll names) (editAll hardware change channels)
      (editAll hardware change channels) := by
  induction channels with
  | nil => exact simulated_pure ()
  | cons name rest ih =>
      obtain ⟨hname, hrest⟩ := List.cons_subset.1 hnames
      exact simulated_bind (simulated_edit_all change hname) fun _ => ih hrest

end Store

end PulseTimeline
