import PulseTimeline.Proofs.Computation

set_option autoImplicit false

/-! # Simulation

A computation is `Simulated` by another one if, from related states, the other one succeeds with the
same value whenever the first one does, and in related states again. Where states are related by an
equivalence, what only moves within a class of related states can be left out of the second
computation. -/

namespace PulseTimeline

variable {ε σ α β : Type} {R : σ → σ → Prop}

/-- From related states, the second computation succeeds like the first one. -/
def Simulated (R : σ → σ → Prop) (x y : EStateM ε σ α) : Prop :=
  ∀ ⦃s s' t : σ⦄ ⦃a : α⦄, R s s' → x.run s = .ok a t → ∃ t', y.run s' = .ok a t' ∧ R t t'

theorem simulated_eq (x : EStateM ε σ α) : Simulated Eq x x := by
  rintro s s' t a rfl hrun
  exact ⟨t, hrun, rfl⟩

theorem simulated_pure (a : α) : Simulated R (pure a : EStateM ε σ α) (pure a) := by
  intro s s' t b hrelated hrun
  obtain ⟨rfl, rfl⟩ := run_pure_eq_ok.1 hrun
  exact ⟨s', rfl, hrelated⟩

theorem simulated_throw (e : ε) (y : EStateM ε σ α) : Simulated R (throw e) y := nofun

theorem simulated_bind {x y : EStateM ε σ α} {f g : α → EStateM ε σ β} (hx : Simulated R x y)
    (hf : ∀ a, Simulated R (f a) (g a)) : Simulated R (x >>= f) (y >>= g) := by
  intro s s' t b hrelated hrun
  obtain ⟨a, u, hfirst, hrest⟩ := run_bind_eq_ok.1 hrun
  obtain ⟨u', hfirst', hrelated'⟩ := hx hrelated hfirst
  obtain ⟨t', hrest', hlast⟩ := hf a hrelated' hrest
  exact ⟨t', run_bind_eq_ok.2 ⟨a, u', hfirst', hrest'⟩, hlast⟩

/-- What reads the state has to go on alike from related states. -/
theorem simulated_get_bind {f g : σ → EStateM ε σ β}
    (h : ∀ s s', R s s' → Simulated R (f s) (g s')) : Simulated R (get >>= f) (get >>= g) :=
  fun s s' _ _ hrelated hrun => h s s' hrelated hrelated hrun

theorem simulated_ite {c : Prop} [Decidable c] {x y x' y' : EStateM ε σ α} (hx : Simulated R x x')
    (hy : Simulated R y y') : Simulated R (if c then x else y) (if c then x' else y') := by
  split
  · exact hx
  · exact hy

theorem simulated_liftOutcome (outcome : Except ε α) :
    Simulated R (liftOutcome outcome : EStateM ε σ α) (liftOutcome outcome) := by
  cases outcome with
  | ok a => exact simulated_pure a
  | error e => exact simulated_throw e _

/-- A computation has one outcome from a state, so that simulations under several relations are one
    under all of them at once. -/
theorem simulated_forall {ι : Type} {P : ι → Prop} {R : ι → σ → σ → Prop} {x y : EStateM ε σ α}
    (hsome : ∃ i, P i) (h : ∀ i, P i → Simulated (R i) x y) :
    Simulated (fun s s' => ∀ i, P i → R i s s') x y := by
  intro s s' t a hrelated hrun
  obtain ⟨i, hi⟩ := hsome
  obtain ⟨t', hrun', -⟩ := h i hi (hrelated i hi) hrun
  refine ⟨t', hrun', fun j hj => ?_⟩
  obtain ⟨other, hother, hlast⟩ := h j hj (hrelated j hj) hrun
  cases hrun'.symm.trans hother
  exact hlast

/-! ## Leaving out -/

theorem Stepwise.related {x : EStateM ε σ α} (hR : Equivalence R) (hx : Stepwise R x) (s : σ) :
    R s (stateAfter x s) :=
  hx.invariant (fun _ _ hstep hrelated => hR.trans hrelated hstep) (hR.refl s)

/-- A first part that stays within a class of related states can be left out. -/
theorem simulated_skip {x : EStateM ε σ α} {f : α → EStateM ε σ β} {y : EStateM ε σ β}
    (hR : Equivalence R) (hx : Stepwise R x) (hf : ∀ a, Simulated R (f a) y) :
    Simulated R (x >>= f) y := by
  intro s s' t b hrelated hrun
  obtain ⟨a, u, hfirst, hrest⟩ := run_bind_eq_ok.1 hrun
  -- The second computation has not begun yet, so its state has to fit the one after the first part.
  have hstayed : R s u := stateAfter_of_ok hfirst ▸ hx.related hR s
  exact hf a (hR.trans (hR.symm hstayed) hrelated) hrest

end PulseTimeline
