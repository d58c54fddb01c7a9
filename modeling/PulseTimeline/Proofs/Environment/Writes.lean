import PulseTimeline.Proofs.Environment.Access
import PulseTimeline.Proofs.Run.Variables

set_option autoImplicit false

/-! # Writes are exact

What is read after a write is what has been written, cast to the type that is there; nothing else is
read differently, and the names stay in their order. A declaration keeps the place of a name that is
there already. What is refused changes nothing. -/

namespace PulseTimeline

namespace Environment

variable {environment : Environment} {name : String}

/-- The names are the same ones in the same order, and all but one stand for what they stood for. -/
structure WritesOnly (name : String) (environment next : Environment) : Prop where
  others : ∀ other, other ≠ name → next.find? other = environment.find? other
  names : next.bindings.keys = environment.bindings.keys

theorem writesOnly_put {meaning : Variable} (h : environment.find? name = some meaning)
    (later : Variable) : WritesOnly name environment (environment.put name later) where
  others := fun _ hother => find?_put_of_ne environment later hother
  names := keys_put h later

/-- **Writes are exact.** An assignment that succeeds is read where it has been made, cast to the
    type that is there, and nowhere else; the names stay in their order. The slots of an array can
    be read and written at the indices from zero up to its size and at no others. A declaration
    seeds its variable, where its name stands or else at the end, and changes no other one. What is
    refused changes nothing. -/
theorem writes_are_exact (environment : Environment) :
    (∀ name value next, (assign name value).run environment = .ok () next →
      ∃ current, environment.scalar name = .ok current
        ∧ next.scalar name = .ok (value.cast current.type) ∧ WritesOnly name environment next)
    ∧ (∀ name index value next, (assignElement name index value).run environment = .ok () next →
      ∃ type values later, environment.find? name = some (.array type values)
        ∧ next.find? name = some (.array type later) ∧ later.size = values.size
        ∧ next.element name index = .ok (value.cast type)
        ∧ (∀ other, other ≠ index → next.element name other = environment.element name other)
        ∧ WritesOnly name environment next)
    ∧ (∀ name index,
      ((∃ value, environment.element name index = .ok value) ↔ environment.HasSlot name index)
      ∧ ∀ value, (∃ next, (assignElement name index value).run environment = .ok () next)
        ↔ environment.HasSlot name index)
    ∧ (∀ definition next, (define definition).run environment = .ok () next →
      next.find? definition.name = some definition.seed
        ∧ (∀ other, other ≠ definition.name → next.find? other = environment.find? other)
        ∧ next.bindings.keys = if definition.name ∈ environment.bindings.keys
          then environment.bindings.keys else environment.bindings.keys ++ [definition.name])
    ∧ ∀ e next, (∀ definition, (define definition).run environment = .error e next →
        next = environment)
      ∧ (∀ name value, (assign name value).run environment = .error e next → next = environment)
      ∧ ∀ name index value, (assignElement name index value).run environment = .error e next →
        next = environment := by
  refine ⟨?_, ?_, ?_, ?_, ?_⟩
  · intro name value next hrun
    obtain ⟨current, hfound, rfl⟩ := run_assign_eq_ok_iff.1 hrun
    exact ⟨current, scalar_eq_ok_iff.2 hfound, scalar_eq_ok_iff.2 (find?_put_self ..),
      writesOnly_put hfound _⟩
  · intro name index value next hrun
    obtain ⟨type, values, position, hfound, hslot, rfl⟩ := run_assignElement_eq_ok_iff.1 hrun
    have hlater := find?_put_self environment name
      (.array type (values.set position (value.cast type) position.isLt))
    refine ⟨type, values, _, hfound, hlater, Array.size_set _, ?_, ?_, writesOnly_put hfound _⟩
    · rw [element_of_find? hlater, valueAt?_set_self hslot]
    · intro other hother
      rw [element_of_find? hlater, element_of_find? hfound, valueAt?_set_of_ne hslot hother,
        Array.size_set]
  · exact fun name index => ⟨exists_element_iff, exists_assignElement_iff⟩
  · intro definition next hrun
    obtain rfl := eq_put_of_define hrun
    refine ⟨find?_put_self .., fun other hother => find?_put_of_ne environment _ hother, ?_⟩
    split
    · next hmem =>
        exact environment.bindings.keys_insert_of_mem _ _
          ((environment.bindings.mem_keys_iff _).1 hmem)
    · next hmem =>
        refine environment.bindings.keys_insert_of_not_mem _ _ ?_
        by_contra hbound
        exact hmem ((environment.bindings.mem_keys_iff _).2 hbound)
  · exact fun e next => ⟨fun _ => eq_of_run_define_eq_error, fun _ _ => eq_of_run_assign_eq_error,
      fun _ _ _ => eq_of_run_assignElement_eq_error⟩

/-- The last slot of an array takes an integer part. There is no slot behind it, and none before the
    first one. -/
theorem write_to_last_slot :
    let environment : Environment :=
      ⟨.ofList [("n", .scalar (.int 1)), ("a", .array .int #[.int 10, .int 20, .int 30])]⟩
    ∃ next, (assignElement "a" 2 (.real 2.9)).run environment = .ok () next
      ∧ next.element "a" 2 = .ok (.int 2)
      ∧ next.element "a" 0 = environment.element "a" 0
      ∧ next.find? "n" = environment.find? "n"
      ∧ ¬ (∃ value, environment.element "a" 3 = .ok value)
      ∧ ¬ ∃ value, environment.element "a" (-1) = .ok value := by
  intro environment
  obtain ⟨-, helements, hslots, -⟩ := writes_are_exact environment
  have hfound : environment.find? "a" = some (.array .int #[.int 10, .int 20, .int 30]) := rfl
  have houtside : ∀ index : Int64, ¬ IsSlot index 3 →
      ¬ ∃ value, environment.element "a" index = .ok value := by
    intro index hout hread
    obtain ⟨type, values, harray, hin⟩ := (hslots "a" index).1.1 hread
    cases hfound.symm.trans harray
    exact hout hin
  have hslot : environment.HasSlot "a" 2 := ⟨.int, _, hfound, by decide, by decide⟩
  obtain ⟨next, hrun⟩ := ((hslots "a" 2).2 (.real 2.9)).2 hslot
  obtain ⟨type, values, later, harray, -, -, hwritten, hothers, honly⟩ :=
    helements "a" 2 (.real 2.9) next hrun
  cases hfound.symm.trans harray
  have hcast : (Value.real 2.9).cast .int = .int 2 := by decide +kernel
  rw [hcast] at hwritten
  exact ⟨next, hrun, hwritten, hothers 0 (by decide), honly.others "n" (by decide),
    houtside 3 (fun h => absurd h.2 (by decide)), houtside (-1) (fun h => absurd h.1 (by decide))⟩

end Environment

end PulseTimeline
