import PulseTimeline.Proofs.Store.Steps

set_option autoImplicit false

/-! # Which timelines an operation files

All that an operation on the store does, successful or not, is to file timelines, and under no other
names than those it is about. These are the names on its list, those of all timelines where an empty
list is aligned, and the elements that share a qubit where they are restarted. -/

namespace PulseTimeline

namespace Store

/-- A timeline is filed under one of some names. -/
inductive Files (names : String → Prop) (store : Store) : Store → Prop where
  | filed (channel : String) (hname : names channel) (timeline : Timeline) :
    Files names store (store.put channel timeline)

variable {hardware : Hardware} {setup : Setup} {names : String → Prop} {store next : Store}
  {channel : String}

/-- What is filed under other names does not show. -/
theorem Files.find?_eq (h : Files names store next) (hname : ¬ names channel) :
    next.find? channel = store.find? channel := by
  cases h with
  | filed other hother timeline =>
      refine find?_put_of_ne store timeline ?_
      rintro rfl
      exact hname hother

theorem demand_files (hname : names channel) :
    Stepwise (Files names) (demand hardware channel) := by
  intro store
  rw [stateAfter_demand]
  split
  · exact .single (.filed channel hname _)
  · exact .refl

theorem edit_files (change : Timeline.Edit) (hname : names channel) :
    Stepwise (Files names) (edit hardware channel change) := by
  intro store
  rw [stateAfter_edit]
  split
  · exact .single (.filed channel hname _)
  · exact .refl

theorem editAll_files (change : Timeline.Edit) {channels : List String}
    (hnames : ∀ name ∈ channels, names name) :
    Stepwise (Files names) (editAll hardware change channels) := by
  induction channels with
  | nil => exact stepwise_pure ()
  | cons name rest ih =>
      obtain ⟨hfirst, hrest⟩ := List.forall_mem_cons.1 hnames
      exact stepwise_bind (edit_files change hfirst) fun _ => ih hrest

theorem latest_files (time : Nat) {channels : List String}
    (hnames : ∀ name ∈ channels, names name) :
    Stepwise (Files names) (latest hardware time channels) := by
  induction channels generalizing time with
  | nil => exact stepwise_pure time
  | cons name rest ih =>
      obtain ⟨hfirst, hrest⟩ := List.forall_mem_cons.1 hnames
      exact stepwise_bind (demand_files hfirst) fun timeline => ih (max time timeline.cursor) hrest

/-- An empty list stands for other names, which may be any. -/
theorem forall_mem_named {channels : List String} (touched : List String)
    (hnames : ∀ name ∈ channels, names name) (hall : channels = [] → ∀ name, names name) :
    ∀ name ∈ if channels.isEmpty then touched else channels, names name := by
  intro name hname
  cases channels with
  | nil => exact hall rfl name
  | cons first rest => exact hnames name hname

theorem align_files {channels : List String} (hnames : ∀ name ∈ channels, names name)
    (hall : channels = [] → ∀ name, names name) :
    Stepwise (Files names) (align hardware channels) := by
  refine stepwise_bind stepwise_get fun store => ?_
  have hnamed := forall_mem_named store.channels hnames hall
  refine stepwise_bind (latest_files 0 hnamed) fun time => ?_
  exact editAll_files _ hnamed

/-- A restart is about no more than the elements that share a qubit, and never about none. -/
theorem restartSharing_files (hnames : ∀ other ∈ setup.qubits.sharing channel, names other) :
    Stepwise (Files names) (restartSharing setup channel) := by
  have hgroup : ∀ other ∈ restartGroup setup channel, names other := by
    intro other hother
    exact hnames other ((mem_restartGroup_iff setup channel other).1 hother).1
  have hself := mem_restartGroup_self setup channel
  refine stepwise_bind (align_files hgroup fun hnil => ?_) fun _ => editAll_files _ hgroup
  rw [hnil] at hself
  exact absurd hself List.not_mem_nil

end Store

end PulseTimeline
