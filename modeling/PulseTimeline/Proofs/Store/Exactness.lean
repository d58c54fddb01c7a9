import PulseTimeline.Proofs.Store.Cursors

set_option autoImplicit false

/-! # What aligning and restarting do exactly

Where cursors tell how long the current segments last, an alignment fails only for an element that
has no timeline and is not configured, and before any timeline has been changed; a restart fails
only if the measured element is such an element. Whatever succeeds is described element by element,
by what the element had before. -/

namespace PulseTimeline

namespace Store

variable {hardware : Hardware} {setup : Setup} {store next : Store} {names : List String}
  {channel : String}

/-! ## Alignments -/

/-- An alignment of configured elements fails in its search, if at all. -/
theorem CursorsExact.run_latest_of_run_align (h : store.CursorsExact) {e : TimelineError}
    (hrun : (align hardware names).run store = .error e next) :
    (latest hardware 0 (store.named names)).run store = .error e next := by
  rw [run_align] at hrun
  rcases run_bind_eq_error.1 hrun with hlatest | ⟨time, created, hlatest, hpad⟩
  · exact hlatest
  · have htime := (of_run_latest_eq_ok hlatest).1
    rw [Nat.zero_max] at htime
    have hle : time ≤ maxDuration := htime ▸ h.furthest_le _
    obtain ⟨last, hlast, -⟩ :=
      (allWithin_of_run_latest hlatest).editAll_padTo hle (List.Subset.refl _)
    exact absurd (hpad.symm.trans hlast) (by simp)

/-- An alignment fails if and only if one of its elements has no timeline and is not configured. -/
theorem CursorsExact.run_align_eq_error_iff (h : store.CursorsExact) :
    (∃ e next, (align hardware names).run store = .error e next)
      ↔ ∃ channel ∈ store.named names, store.timeline? hardware channel = none := by
  constructor
  · rintro ⟨e, next, hrun⟩
    obtain ⟨channel, hnamed, hnone, -⟩ := of_run_latest_eq_error (h.run_latest_of_run_align hrun)
    exact ⟨channel, hnamed, hnone⟩
  · rintro ⟨channel, hnamed, hnone⟩
    cases hrun : (align hardware names).run store with
    | error e next => exact ⟨e, next, rfl⟩
    | ok u next =>
        obtain ⟨timeline, hfound, -⟩ := (find?_align hrun channel).1 hnamed
        rw [hnone] at hfound
        cases hfound

/-- What an alignment of a list of elements to a time makes of a store. -/
structure AlignedAt (hardware : Hardware) (listed : List String) (time : Nat)
    (store next : Store) : Prop where
  /-- The elements of the list have waited until the time, by a single delay if at all. -/
  waited : ∀ channel ∈ listed, ∃ timeline, store.timeline? hardware channel = some timeline
    ∧ next.find? channel
      = some { timeline with current := timeline.currentUntil time, cursor := time }
  others : ∀ channel, channel ∉ listed → next.find? channel = store.find? channel
  /-- When an element's turn comes, it has not come further than the time, and the wait until then
      is not too long. -/
  waits : ∀ before channel after, listed = before ++ channel :: after →
    ∃ created middle timeline, (latest hardware 0 listed).run store = .ok time created
      ∧ (editAll hardware (Timeline.padTo time) before).run created = .ok () middle
      ∧ middle.timeline? hardware channel = some timeline
      ∧ timeline.cursor ≤ time ∧ timeline.cursor + (time - timeline.cursor) ≤ maxDuration

theorem CursorsExact.alignedAt (h : store.CursorsExact)
    (hrun : (align hardware names).run store = .ok () next) :
    AlignedAt hardware (store.named names) (store.furthest (store.named names)) store next where
  waited := by
    intro channel hnamed
    obtain ⟨timeline, hfound, hreach, hnext⟩ := (find?_align hrun channel).1 hnamed
    rw [Timeline.padded_eq hreach.cursor_le] at hnext
    exact ⟨timeline, hfound, hnext⟩
  others := fun channel => (find?_align hrun channel).2
  waits := by
    intro before channel after hsplit
    rw [run_align] at hrun
    obtain ⟨time, created, hlatest, -⟩ := run_bind_eq_ok.1 hrun
    have htime := (of_run_latest_eq_ok hlatest).1
    rw [Nat.zero_max] at htime
    subst htime
    have hle := h.furthest_le (store.named names)
    have hbefore : before ⊆ store.named names := by
      rw [hsplit]
      exact List.subset_append_left _ _
    have hchannel : channel ∈ store.named names := by
      rw [hsplit]
      simp
    -- What has waited already is within the time as well, so a repeated name does no harm.
    obtain ⟨middle, hmiddle, hwithin⟩ :=
      (allWithin_of_run_latest hlatest).editAll_padTo hle hbefore
    obtain ⟨timeline, hfound, hcursor⟩ := hwithin channel hchannel
    exact ⟨created, middle, timeline, hlatest, hmiddle, hfound, hcursor, by omega⟩

/-- **Alignments are exact.** An alignment fails if and only if one of its elements has no timeline
    and is not configured, and then has at most begun new timelines. Otherwise its elements have
    waited until the furthest cursor among them, and no other element has changed. -/
theorem alignments_are_exact (hardware : Hardware) (store : Store) (names : List String)
    (hexact : store.CursorsExact) :
    ((∃ e next, (align hardware names).run store = .error e next)
        ↔ ∃ channel ∈ store.named names,
          store.find? channel = none ∧ hardware.element? channel = none)
      ∧ (∀ e next, (align hardware names).run store = .error e next →
        store.OnlyCreates hardware next
          ∧ ∃ channel ∈ store.named names, store.timeline? hardware channel = none
            ∧ e = .unknownChannel channel)
      ∧ ∀ next, (align hardware names).run store = .ok () next →
        AlignedAt hardware (store.named names) (store.furthest (store.named names)) store next := by
  refine ⟨?_, ?_, fun next hrun => hexact.alignedAt hrun⟩
  · rw [hexact.run_align_eq_error_iff]
    simp only [timeline?_eq_none_iff]
  · intro e next hrun
    have hlatest := hexact.run_latest_of_run_align hrun
    exact ⟨onlyCreates_latest hlatest, of_run_latest_eq_error hlatest⟩

/-- One element has waited for three samples. The other one, which is named twice, waits for three
    samples once. -/
theorem alignment_of_repeated_neighbour :
    let waited := { Timeline.new "qe1" .single with current := .single [.delay 3], cursor := 3 }
    let store : Store := ⟨.ofList [("qe1", waited)]⟩
    let hardware : Hardware :=
      ⟨.ofList [("qe1", ⟨none, none, .empty, none⟩), ("rr1", ⟨none, none, .empty, none⟩)], .empty,
        .empty⟩
    store.CursorsExact
      ∧ ∃ next, (align hardware ["rr1", "qe1", "rr1"]).run store = .ok () next
        ∧ AlignedAt hardware ["rr1", "qe1", "rr1"] 3 store next
        ∧ next.find? "rr1" = some { Timeline.new "rr1" .single with
          current := .single [.delay 3], cursor := 3 } := by
  intro waited store hardware
  have hexact : store.CursorsExact := by decide
  have hrun : (align hardware ["rr1", "qe1", "rr1"]).run store
      = .ok () (stateAfter (align hardware ["rr1", "qe1", "rr1"]) store) := rfl
  have haligned := (alignments_are_exact hardware store _ hexact).2.2 _ hrun
  refine ⟨hexact, _, hrun, haligned, ?_⟩
  obtain ⟨timeline, hfound, hnext⟩ := haligned.waited "rr1" (by decide)
  rw [hnext]
  cases hfound
  rfl

/-! ## Restarts -/

/-- The element itself, or a configured element that has a qubit in common with it. -/
def RestartsWith (setup : Setup) (channel other : String) : Prop :=
  other = channel ∨ (setup.hardware.element? other).isSome
    ∧ ∃ qubits others qubit, setup.qubits.qubits? channel = some qubits
      ∧ setup.qubits.qubits? other = some others ∧ qubit ∈ qubits ∧ qubit ∈ others

theorem mem_restartGroup_iff_restartsWith (setup : Setup) (channel other : String) :
    other ∈ restartGroup setup channel ↔ RestartsWith setup channel other := by
  rw [mem_restartGroup_iff, setup.qubits.mem_sharing_iff]
  simp only [QubitMap.meet_eq_true_iff, RestartsWith]
  constructor
  · rintro ⟨rfl | ⟨qubits, others, hqubits, hothers, qubit, hin, hmeets⟩, hconfigured⟩
    · exact Or.inl rfl
    · rcases hconfigured with rfl | hconfigured
      · exact Or.inl rfl
      · exact Or.inr ⟨hconfigured, qubits, others, qubit, hqubits, hothers, hmeets, hin⟩
  · rintro (rfl | ⟨hconfigured, qubits, others, qubit, hqubits, hothers, hin, hmeets⟩)
    · exact ⟨Or.inl rfl, Or.inl rfl⟩
    · exact ⟨Or.inr ⟨qubits, others, hqubits, hothers, qubit, hmeets, hin⟩, Or.inr hconfigured⟩

/-- The others of a group are configured, so it is the element itself that has no timeline. -/
theorem eq_of_timeline?_eq_none {other : String} (hgroup : other ∈ restartGroup setup channel)
    (hnone : store.timeline? setup.hardware other = none) : other = channel := by
  rcases ((mem_restartGroup_iff setup channel other).1 hgroup).2 with heq | hconfigured
  · exact heq
  · rw [(timeline?_eq_none_iff.1 hnone).2] at hconfigured
    cases hconfigured

/-- The time of a restart is the furthest that the element or one of the others has come. -/
theorem isGreatest_furthest_restartGroup (store : Store) (setup : Setup) (channel : String) :
    IsGreatest (store.cursorOf '' {other | RestartsWith setup channel other})
      (store.furthest (restartGroup setup channel)) := by
  have hgroup : {other | RestartsWith setup channel other}
      = {other | other ∈ restartGroup setup channel} := by
    ext other
    exact (mem_restartGroup_iff_restartsWith setup channel other).symm
  rw [hgroup]
  exact store.isGreatest_furthest (List.ne_nil_of_mem (mem_restartGroup_self setup channel))

/-- A restart fails in the search of its alignment, if at all. -/
theorem CursorsExact.run_latest_of_run_restartSharing (h : store.CursorsExact) {e : TimelineError}
    (hrun : (restartSharing setup channel).run store = .error e next) :
    (latest setup.hardware 0 (restartGroup setup channel)).run store = .error e next := by
  have hlatest := h.run_latest_of_run_align (run_align_of_run_restartSharing hrun)
  rwa [named_restartGroup] at hlatest

/-- A restart fails if and only if its element has no timeline and is not configured. -/
theorem CursorsExact.run_restartSharing_eq_error_iff (h : store.CursorsExact) :
    (∃ e next, (restartSharing setup channel).run store = .error e next)
      ↔ store.timeline? setup.hardware channel = none := by
  constructor
  · rintro ⟨e, next, hrun⟩
    have hlatest := h.run_latest_of_run_restartSharing hrun
    obtain ⟨other, hgroup, hnone, -⟩ := of_run_latest_eq_error hlatest
    rwa [eq_of_timeline?_eq_none hgroup hnone] at hnone
  · intro hnone
    cases hrun : (restartSharing setup channel).run store with
    | error e next => exact ⟨e, next, rfl⟩
    | ok u next =>
        have hself := mem_restartGroup_self setup channel
        obtain ⟨timeline, hfound, -⟩ := (find?_restartSharing hrun channel).1 hself
        rw [hnone] at hfound
        cases hfound

/-- What a restart makes of a store: the given elements have closed their segments at a time. -/
structure RestartedAt (setup : Setup) (channel : String) (time : Nat) (store next : Store) :
    Prop where
  closed : ∀ other, RestartsWith setup channel other →
    ∃ timeline, store.timeline? setup.hardware other = some timeline
      ∧ (timeline.currentUntil time).duration = time
      ∧ next.find? other = some
        { timeline with
          closed := timeline.closed ++ [timeline.currentUntil time]
          current := .empty timeline.kind
          cursor := 0 }
  others : ∀ other, ¬ RestartsWith setup channel other → next.find? other = store.find? other

theorem CursorsExact.restartedAt (h : store.CursorsExact)
    (hrun : (restartSharing setup channel).run store = .ok () next) :
    RestartedAt setup channel (store.furthest (restartGroup setup channel)) store next where
  closed := by
    intro other hother
    have hgroup := (mem_restartGroup_iff_restartsWith setup channel other).2 hother
    obtain ⟨timeline, hfound, hreach, hnext⟩ := (find?_restartSharing hrun other).1 hgroup
    have hlasts := Timeline.duration_currentUntil (h.cursor_eq hfound) hreach.cursor_le
      (h.furthest_le (restartGroup setup channel))
    rw [Timeline.padded_eq hreach.cursor_le] at hnext
    exact ⟨timeline, hfound, hlasts, hnext⟩
  others := by
    intro other hother
    rw [← mem_restartGroup_iff_restartsWith] at hother
    exact (find?_restartSharing hrun other).2 hother

/-- **Restarts are exact.** A restart fails if and only if its element has no timeline and is not
    configured, and then has at most begun new timelines. Otherwise the element and all configured
    ones that share a qubit with it have waited until the furthest cursor among them, and each has
    closed just the one segment that ends there; no other element has changed. -/
theorem restarts_are_exact (setup : Setup) (store : Store) (channel : String)
    (hexact : store.CursorsExact) :
    ((∃ e next, (restartSharing setup channel).run store = .error e next)
        ↔ store.find? channel = none ∧ setup.hardware.element? channel = none)
      ∧ (∀ e next, (restartSharing setup channel).run store = .error e next →
        e = .unknownChannel channel ∧ store.OnlyCreates setup.hardware next)
      ∧ ∀ next, (restartSharing setup channel).run store = .ok () next →
        ∃ time, IsGreatest (store.cursorOf '' {other | RestartsWith setup channel other}) time
          ∧ RestartedAt setup channel time store next := by
  refine ⟨?_, ?_, ?_⟩
  · rw [hexact.run_restartSharing_eq_error_iff, timeline?_eq_none_iff]
  · intro e next hrun
    have hlatest := hexact.run_latest_of_run_restartSharing hrun
    obtain ⟨other, hgroup, hnone, he⟩ := of_run_latest_eq_error hlatest
    rw [eq_of_timeline?_eq_none hgroup hnone] at he
    exact ⟨he, onlyCreates_latest hlatest⟩
  · intro next hrun
    exact ⟨_, store.isGreatest_furthest_restartGroup setup channel, hexact.restartedAt hrun⟩

/-- When an element that has done nothing yet is restarted, its neighbour that has waited for three
    samples closes its segment as it is, and another one begins a timeline with a segment of three
    samples. What is not configured begins none. -/
theorem restart_of_untouched_neighbour :
    let waited := { Timeline.new "qe1" .single with current := .single [.delay 3], cursor := 3 }
    let store : Store := ⟨.ofList [("qe1", waited)]⟩
    let setup : Setup :=
      ⟨⟨.ofList [("qe1", ⟨none, none, .empty, none⟩), ("rr1", ⟨none, none, .empty, none⟩)], .empty,
        .empty⟩, .ofList [("qe1", [0]), ("rr1", [0, 1]), ("spare", [1])], .standard⟩
    store.CursorsExact
      ∧ ∃ next time, (restartSharing setup "rr1").run store = .ok () next
        ∧ IsGreatest (store.cursorOf '' {other | RestartsWith setup "rr1" other}) time
        ∧ RestartedAt setup "rr1" time store next
        ∧ (next.find? "qe1").map Timeline.segments = some [.single [.delay 3], .single []]
        ∧ (next.find? "rr1").map Timeline.segments = some [.single [.delay 3], .single []]
        ∧ next.find? "spare" = none := by
  intro waited store setup
  have hexact : store.CursorsExact := by decide
  have hrun : (restartSharing setup "rr1").run store
      = .ok () (stateAfter (restartSharing setup "rr1") store) := rfl
  obtain ⟨time, hgreatest, hrestarted⟩ := (restarts_are_exact setup store "rr1" hexact).2.2 _ hrun
  exact ⟨hexact, _, time, hrun, hgreatest, hrestarted, by decide, by decide, by decide⟩

end Store

end PulseTimeline
