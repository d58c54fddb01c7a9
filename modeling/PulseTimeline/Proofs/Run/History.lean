import PulseTimeline.Proofs.Run.Steps
import PulseTimeline.Proofs.Timeline.History

set_option autoImplicit false

/-! # Runs only append

Timelines and streams are both tables that fill up: a name keeps its place, and what is filed under
it is replaced by something that continues it. Each step of a run is such a write, so nothing that
a run has emitted is ever altered by what runs after it. -/

namespace PulseTimeline

/-! ## Tables -/

namespace Table

variable {α : Type} {R : α → α → Prop}

/-- A table that continues an earlier one by `R` keeps its names in order, new ones behind, and has
    under each of them a value that continues the earlier one. -/
structure Continues (R : α → α → Prop) (later earlier : Table α) : Prop where
  keys : earlier.keys <+: later.keys
  values : ∀ name value, earlier.find? name = some value →
    ∃ next, later.find? name = some next ∧ R next value

theorem Continues.refl (hrefl : ∀ value, R value value) (t : Table α) : t.Continues R t where
  keys := List.prefix_refl _
  values _ value hvalue := ⟨value, hvalue, hrefl value⟩

theorem Continues.trans (htrans : ∀ {a b c}, R a b → R b c → R a c) {last middle first : Table α}
    (h : last.Continues R middle) (hfirst : middle.Continues R first) :
    last.Continues R first where
  keys := hfirst.keys.trans h.keys
  values := by
    intro name value hvalue
    obtain ⟨next, hnext, hR⟩ := hfirst.values name value hvalue
    obtain ⟨final, hfinal, hR'⟩ := h.values name next hnext
    exact ⟨final, hfinal, htrans hR' hR⟩

theorem continues_insert (hrefl : ∀ value, R value value) (t : Table α) (name : String) (next : α)
    (h : ∀ value, t.find? name = some value → R next value) :
    (t.insert name next).Continues R t where
  keys := t.keys_prefix_insert name next
  values := by
    intro other value hvalue
    by_cases heq : other = name
    · subst heq
      exact ⟨next, t.find?_insert_self other next, h value hvalue⟩
    · rw [t.find?_insert_of_ne next heq]
      exact ⟨value, hvalue, hrefl value⟩

end Table

/-! ## Timelines -/

namespace Store

/-- The timelines of a store continue those of an earlier one. -/
def Continues (later earlier : Store) : Prop :=
  later.timelines.Continues Timeline.Continues earlier.timelines

theorem Continues.refl (store : Store) : store.Continues store :=
  Table.Continues.refl Timeline.Continues.refl store.timelines

theorem Continues.trans {last middle first : Store} (h : last.Continues middle)
    (hfirst : middle.Continues first) : last.Continues first :=
  Table.Continues.trans (fun hab hbc => hab.trans hbc) h hfirst

theorem continues_put {hardware : Hardware} {store : Store} {channel : String}
    {timeline later : Timeline} (hfound : store.timeline? hardware channel = some timeline)
    (h : later.Continues timeline) : (store.put channel later).Continues store := by
  refine Table.continues_insert Timeline.Continues.refl store.timelines channel later ?_
  intro earlier hearlier
  have hsame : store.timeline? hardware channel = some earlier := timeline?_of_find? hearlier
  rw [hfound] at hsame
  cases hsame
  exact h

theorem Access.continues {hardware : Hardware} {calls : Timeline.Call → Prop} {store next : Store}
    (h : Access hardware calls store next) : next.Continues store := by
  cases h with
  | touched channel =>
      rw [stateAfter_demand]
      cases hfound : store.timeline? hardware channel with
      | none => exact .refl store
      | some timeline => exact continues_put hfound (.refl timeline)
  | called channel call _ =>
      rw [stateAfter_edit]
      cases hfound : store.timeline? hardware channel with
      | none => exact .refl store
      | some timeline => exact continues_put hfound (timeline.continues_edit call)

theorem Step.continues {setup : Setup} {store next : Store} (h : Step setup store next) :
    next.Continues store :=
  -- Access by access a restart only appends.
  h.invariant (P := fun later => later.Continues store)
    (fun _ _ haccess hcontinues => haccess.continues.trans hcontinues) (.refl store)

end Store

/-! ## Runs -/

/-- A state of a run that continues an earlier one: timelines and streams have only grown. -/
structure RunState.Continues (later earlier : RunState) : Prop where
  timelines : later.timelines.Continues earlier.timelines
  streams : later.streams.Continues (fun values earlier => earlier <+: values) earlier.streams

namespace Run

theorem continues_refl (state : RunState) : state.Continues state where
  timelines := .refl _
  streams := .refl (R := fun values earlier => earlier <+: values) List.prefix_refl _

theorem Step.continues {setup : Setup} {state next : RunState} (h : Step setup state next) :
    next.Continues state := by
  have hstreams := (continues_refl state).streams
  cases h with
  | drawn random => exact ⟨.refl _, hstreams⟩
  | assigned _ => exact ⟨.refl _, hstreams⟩
  | played hstep => exact ⟨hstep.continues, hstreams⟩
  | saved stream v =>
      refine ⟨.refl _, Table.continues_insert (R := fun values earlier => earlier <+: values)
        List.prefix_refl _ stream _ ?_⟩
      intro values hvalues
      rw [hvalues]
      exact List.prefix_append _ _

/-- What goes by steps continues the state that it begins with, also where it fails. -/
theorem continues_of_stepwise {setup : Setup} {α : Type} {x : Run α}
    (hx : Stepwise (Step setup) x) (state : RunState) :
    (stateAfter x state).Continues state := by
  refine hx.invariant (P := fun later => later.Continues state) ?_ (continues_refl state)
  intro middle next hstep hmiddle
  exact ⟨hstep.continues.timelines.trans hmiddle.timelines,
    hstep.continues.streams.trans (fun hab hbc => hbc.trans hab) hmiddle.streams⟩

/-- **History is append-only.** A statement or block that succeeds keeps the elements and streams in
    their order, closed segments as they are, and everything else as a prefix of what it leaves;
    so no timeline ends earlier than before. -/
theorem history_is_append_only (setup : Setup) (state next : RunState)
    (h : (∃ statement, (execute setup statement).run state = .ok () next)
      ∨ ∃ block, (executeBlock setup block).run state = .ok () next) :
    next.Continues state
      ∧ ∀ channel timeline, state.timelines.find? channel = some timeline →
        ∃ later, next.timelines.find? channel = some later ∧ timeline.endTime ≤ later.endTime := by
  have hcontinues : next.Continues state := by
    rcases h with ⟨statement, hrun⟩ | ⟨block, hrun⟩
    · have hkept := continues_of_stepwise (stepwise_execute setup statement) state
      rwa [stateAfter_of_ok hrun] at hkept
    · have hkept := continues_of_stepwise (stepwise_executeBlock setup block) state
      rwa [stateAfter_of_ok hrun] at hkept
  refine ⟨hcontinues, ?_⟩
  intro channel timeline hfound
  obtain ⟨later, hlater, hgrown⟩ := hcontinues.timelines.values channel timeline hfound
  exact ⟨later, hlater, hgrown.endTime_le⟩

/-- A measurement closes the segment in which an element has waited; the wait is still there. -/
theorem history_of_measured_wait :
    let waited := { Timeline.new "qe1" .single with current := .single [.delay 4], cursor := 4 }
    let state : RunState := ⟨.empty, ⟨.ofList [("qe1", waited)]⟩, .empty, .empty⟩
    let setup : Setup :=
      ⟨⟨.ofList [("qe1", ⟨none, none, .empty, none⟩)], .empty, .empty⟩, .empty, .standard⟩
    ∃ next, (execute setup (.measure "qe1" none)).run state = .ok () next
      ∧ next.Continues state
      ∧ ∃ later, next.timelines.find? "qe1" = some later ∧ 4 ≤ later.endTime
        ∧ later.closed = [.single [.delay 4, .measure none]] := by
  intro waited state setup
  have hrun : (execute setup (.measure "qe1" none)).run state
      = .ok () (stateAfter (execute setup (.measure "qe1" none)) state) := rfl
  obtain ⟨hcontinues, hends⟩ := history_is_append_only setup state _ (.inl ⟨_, hrun⟩)
  obtain ⟨later, hlater, hend⟩ := hends "qe1" waited rfl
  refine ⟨_, hrun, hcontinues, later, hlater, hend, ?_⟩
  cases hlater
  rfl

end Run

end PulseTimeline
