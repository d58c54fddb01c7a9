import Mathlib.Data.List.Forall2
import Mathlib.Logic.Relation
import PulseTimeline.Run.Evaluate

set_option autoImplicit false

/-! # Computations on a state

A computation that succeeds has succeeded in each of its parts, and one that fails has failed in one
of them. These laws take a run apart into the runs of its parts, so that no proof about a composed
operation unfolds the state monad. A computation is `Stepwise` if all that it does to its state,
up to where it ends or fails, is steps of a given kind; that is enough to keep their invariants. It
`RaisesOnly` errors of a kind if these are all that it can fail with, from whatever state. -/

namespace PulseTimeline

variable {ε σ α β : Type}

/-! ## Outcomes -/

theorem run_bind_eq_ok {x : EStateM ε σ α} {f : α → EStateM ε σ β} {s t : σ} {b : β} :
    (x >>= f).run s = .ok b t ↔ ∃ a u, x.run s = .ok a u ∧ (f a).run u = .ok b t := by
  rw [EStateM.run_bind]
  cases x.run s with
  | ok a u =>
      constructor
      · exact fun h => ⟨a, u, rfl, h⟩
      · rintro ⟨a', u', ha, h⟩
        cases ha
        exact h
  | error e u => simp

theorem run_bind_eq_error {x : EStateM ε σ α} {f : α → EStateM ε σ β} {s t : σ} {e : ε} :
    (x >>= f).run s = .error e t
      ↔ x.run s = .error e t ∨ ∃ a u, x.run s = .ok a u ∧ (f a).run u = .error e t := by
  rw [EStateM.run_bind]
  cases x.run s with
  | ok a u =>
      constructor
      · exact fun h => Or.inr ⟨a, u, rfl, h⟩
      · rintro (h | ⟨a', u', ha, h⟩)
        · cases h
        · cases ha
          exact h
  | error e' u => simp

theorem run_pure_eq_ok {a b : α} {s t : σ} :
    (pure a : EStateM ε σ α).run s = .ok b t ↔ a = b ∧ s = t := by
  rw [EStateM.run_pure, EStateM.Result.ok.injEq]

@[simp] theorem run_throw_ne_ok {e : ε} {a : α} {s t : σ} :
    (throw e : EStateM ε σ α).run s ≠ .ok a t := by
  intro h
  cases h

theorem run_liftOutcome_eq_ok {outcome : Except ε α} {a : α} {s t : σ} :
    (liftOutcome outcome : EStateM ε σ α).run s = .ok a t ↔ outcome = .ok a ∧ s = t := by
  cases outcome with
  | ok b => simp [liftOutcome]
  | error e => simp [liftOutcome]

theorem run_liftOutcome_eq_error {outcome : Except ε α} {e : ε} {s t : σ} :
    (liftOutcome outcome : EStateM ε σ α).run s = .error e t ↔ outcome = .error e ∧ s = t := by
  cases outcome with
  | ok a => simp [liftOutcome]
  | error e' =>
      show EStateM.Result.error e' s = .error e t ↔ _
      simp

theorem except_bind_eq_ok {x : Except ε α} {f : α → Except ε β} {b : β} :
    (x >>= f) = .ok b ↔ ∃ a, x = .ok a ∧ f a = .ok b := by
  cases x with
  | ok a => simp [bind, Except.bind]
  | error e => simp [bind, Except.bind]

theorem checked_eq_ok_iff {c : Prop} [Decidable c] {a b : α} {e : ε} :
    (if c then .ok a else .error e : Except ε α) = .ok b ↔ c ∧ b = a := by
  by_cases h : c
  · simp [h, eq_comm]
  · simp [h]

theorem except_bind_eq_error {x : Except ε α} {f : α → Except ε β} {e : ε} :
    (x >>= f) = .error e ↔ x = .error e ∨ ∃ a, x = .ok a ∧ f a = .error e := by
  cases x with
  | ok a => simp [bind, Except.bind]
  | error e' => simp [bind, Except.bind]

theorem mapError_eq_ok {ε' : Type} {g : ε → ε'} {outcome : Except ε α} {a : α} :
    outcome.mapError g = .ok a ↔ outcome = .ok a := by
  cases outcome with
  | ok b =>
      constructor
      · intro h
        cases h
        rfl
      · intro h
        cases h
        rfl
  | error e => exact ⟨nofun, nofun⟩

theorem mapError_eq_error {ε' : Type} {g : ε → ε'} {outcome : Except ε α} {e : ε'} :
    outcome.mapError g = .error e ↔ ∃ e', outcome = .error e' ∧ g e' = e := by
  cases outcome with
  | ok a => exact ⟨nofun, nofun⟩
  | error e' =>
      constructor
      · intro h
        cases h
        exact ⟨e', rfl, rfl⟩
      · rintro ⟨_, h, rfl⟩
        cases h
        rfl

/-- A check of every member of a list succeeds only if each check does. -/
theorem forM_eq_ok {f : α → Except ε Unit} {l : List α} (h : l.forM f = .ok ()) :
    ∀ a ∈ l, f a = .ok () := by
  induction l with
  | nil => simp
  | cons a rest ih =>
      have hbind : (f a >>= fun _ => rest.forM f) = .ok () := h
      obtain ⟨u, ha, hrest⟩ := except_bind_eq_ok.1 hbind
      intro b hb
      rcases List.mem_cons.1 hb with rfl | hb
      · exact ha
      · exact ih hrest b hb

theorem forM_of_forall {f : α → Except ε Unit} {l : List α} (h : ∀ a ∈ l, f a = .ok ()) :
    l.forM f = .ok () := by
  induction l with
  | nil => rfl
  | cons a rest ih =>
      obtain ⟨ha, hrest⟩ := List.forall_mem_cons.1 h
      have hbind : (f a >>= fun _ => rest.forM f) = .ok () := except_bind_eq_ok.2 ⟨(), ha, ih hrest⟩
      exact hbind

/-- Each member of a list that has been made member by member comes from one of the other list. -/
theorem mem_of_mapM_eq_ok {f : α → Except ε β} {l : List α} {made : List β}
    (h : l.mapM f = .ok made) : ∀ b ∈ made, ∃ a ∈ l, f a = .ok b := by
  induction l generalizing made with
  | nil =>
      cases h
      simp
  | cons a rest ih =>
      rw [List.mapM_cons] at h
      obtain ⟨b, hb, h⟩ := except_bind_eq_ok.1 h
      obtain ⟨others, hothers, h⟩ := except_bind_eq_ok.1 h
      cases h
      intro c hc
      rcases List.mem_cons.1 hc with rfl | hc
      · exact ⟨a, List.mem_cons_self .., hb⟩
      · obtain ⟨a', ha', hfa'⟩ := ih hothers c hc
        exact ⟨a', List.mem_cons_of_mem a ha', hfa'⟩

/-! ## Lists and options of outcomes -/

section

variable {f : α → Except ε β}

@[simp] theorem ok_bind (a : α) : ((.ok a : Except ε α) >>= f) = f a := rfl

theorem mapM_eq_ok_iff_forall₂ {l : List α} {made : List β} :
    l.mapM f = .ok made ↔ List.Forall₂ (fun a b => f a = .ok b) l made := by
  induction l generalizing made with
  | nil =>
      rw [List.forall₂_nil_left_iff]
      exact ⟨fun h => by cases h; rfl, fun h => by rw [h]; rfl⟩
  | cons a rest ih =>
      rw [List.mapM_cons, List.forall₂_cons_left_iff]
      constructor
      · intro h
        obtain ⟨b, hb, h⟩ := except_bind_eq_ok.1 h
        obtain ⟨others, hothers, h⟩ := except_bind_eq_ok.1 h
        cases h
        exact ⟨b, others, hb, ih.1 hothers, rfl⟩
      · rintro ⟨b, others, hb, hothers, rfl⟩
        simp only [hb, ih.2 hothers, ok_bind]
        rfl

theorem optionMapM_eq_ok_iff {o : Option α} {made : Option β} :
    o.mapM f = .ok made
      ↔ o = none ∧ made = none ∨ ∃ a b, o = some a ∧ f a = .ok b ∧ made = some b := by
  cases o with
  | none =>
      constructor
      · intro h
        cases h
        exact Or.inl ⟨rfl, rfl⟩
      · rintro (⟨-, rfl⟩ | ⟨a, b, h, -⟩)
        · rfl
        · cases h
  | some a =>
      constructor
      · intro h
        obtain ⟨b, hb, h⟩ := except_bind_eq_ok.1 h
        cases h
        exact Or.inr ⟨a, b, rfl, hb, rfl⟩
      · rintro (⟨h, -⟩ | ⟨a', b, h, hb, rfl⟩)
        · cases h
        · cases h
          exact except_bind_eq_ok.2 ⟨b, hb, rfl⟩

end

/-! ## What a computation leaves behind -/

/-- The state that a computation leaves behind, whether it succeeds or fails. -/
def stateAfter (x : EStateM ε σ α) (s : σ) : σ :=
  match x.run s with
  | .ok _ t => t
  | .error _ t => t

theorem stateAfter_of_ok {x : EStateM ε σ α} {s t : σ} {a : α} (h : x.run s = .ok a t) :
    stateAfter x s = t := by
  rw [stateAfter, h]

theorem stateAfter_of_error {x : EStateM ε σ α} {s t : σ} {e : ε} (h : x.run s = .error e t) :
    stateAfter x s = t := by
  rw [stateAfter, h]

/-- The state that a computation leaves behind if it succeeds. -/
def stateIfOk? (x : EStateM ε σ α) (s : σ) : Option σ :=
  match x.run s with
  | .ok _ t => some t
  | .error _ _ => none

theorem stateIfOk?_eq_some_iff {x : EStateM ε σ α} {s t : σ} :
    stateIfOk? x s = some t ↔ ∃ a, x.run s = .ok a t := by
  rw [stateIfOk?]
  cases x.run s <;> simp

/-- The error of a computation, if it fails. -/
def errorIfFailed? (x : EStateM ε σ α) (s : σ) : Option ε :=
  match x.run s with
  | .ok _ _ => none
  | .error e _ => some e

theorem errorIfFailed?_eq_some_iff {x : EStateM ε σ α} {s : σ} {e : ε} :
    errorIfFailed? x s = some e ↔ ∃ t, x.run s = .error e t := by
  rw [errorIfFailed?]
  cases x.run s <;> simp

/-- A computation that changes its state by steps of a relation only, whether it succeeds or
    fails. -/
def Stepwise (R : σ → σ → Prop) (x : EStateM ε σ α) : Prop :=
  ∀ s, Relation.ReflTransGen R s (stateAfter x s)

variable {R : σ → σ → Prop}

theorem Stepwise.mono {R' : σ → σ → Prop} {x : EStateM ε σ α} (hx : Stepwise R x)
    (hstep : ∀ s t, R s t → R' s t) : Stepwise R' x :=
  fun s => Relation.ReflTransGen.mono hstep _ _ (hx s)

/-- What every step keeps, a stepwise computation keeps. -/
theorem Stepwise.invariant {P : σ → Prop} {x : EStateM ε σ α} (hx : Stepwise R x)
    (hstep : ∀ s t, R s t → P s → P t) {s : σ} (hs : P s) : P (stateAfter x s) := by
  have hsteps := hx s
  generalize stateAfter x s = t at hsteps
  induction hsteps with
  | refl => exact hs
  | tail _ hlast ih => exact hstep _ _ hlast ih

theorem stepwise_pure (a : α) : Stepwise R (pure a : EStateM ε σ α) := fun _ => .refl

theorem stepwise_throw (e : ε) : Stepwise R (throw e : EStateM ε σ α) := fun _ => .refl

theorem stepwise_get : Stepwise R (get : EStateM ε σ σ) := fun _ => .refl

theorem stepwise_bind {x : EStateM ε σ α} {f : α → EStateM ε σ β} (hx : Stepwise R x)
    (hf : ∀ a, Stepwise R (f a)) : Stepwise R (x >>= f) := by
  intro s
  have hfirst := hx s
  cases hrun : x.run s with
  | ok a t =>
      have hrest := hf a t
      rw [stateAfter_of_ok hrun] at hfirst
      rw [stateAfter, EStateM.run_bind, hrun]
      exact hfirst.trans hrest
  | error e t =>
      rw [stateAfter_of_error hrun] at hfirst
      rw [stateAfter, EStateM.run_bind, hrun]
      exact hfirst

theorem stepwise_ite {c : Prop} [Decidable c] {x y : EStateM ε σ α} (hx : Stepwise R x)
    (hy : Stepwise R y) : Stepwise R (if c then x else y) := by
  split
  · exact hx
  · exact hy

theorem stepwise_liftOutcome (outcome : Except ε α) :
    Stepwise R (liftOutcome outcome : EStateM ε σ α) := by
  cases outcome with
  | ok a => exact stepwise_pure a
  | error e => exact stepwise_throw e

/-- What follows a check may rely on its outcome. -/
theorem stepwise_check {outcome : Except ε α} {f : α → EStateM ε σ β}
    (hf : ∀ a, outcome = .ok a → Stepwise R (f a)) :
    Stepwise R (liftOutcome outcome >>= f) := by
  cases outcome with
  | ok a => exact hf a rfl
  | error e => exact stepwise_throw e

/-! ## What a computation raises -/

/-- A computation that fails with errors of a kind only, from whatever state. -/
def RaisesOnly (P : ε → Prop) (x : EStateM ε σ α) : Prop :=
  ∀ s t e, x.run s = .error e t → P e

variable {P : ε → Prop}

theorem raisesOnly_pure (a : α) : RaisesOnly P (pure a : EStateM ε σ α) := nofun

theorem raisesOnly_get : RaisesOnly P (get : EStateM ε σ σ) := nofun

theorem raisesOnly_modify (f : σ → σ) : RaisesOnly P (modify f : EStateM ε σ PUnit) := nofun

theorem raisesOnly_throw {e : ε} (h : P e) : RaisesOnly P (throw e : EStateM ε σ α) := by
  intro s t e' hrun
  cases hrun
  exact h

theorem raisesOnly_bind {x : EStateM ε σ α} {f : α → EStateM ε σ β} (hx : RaisesOnly P x)
    (hf : ∀ a, RaisesOnly P (f a)) : RaisesOnly P (x >>= f) := by
  intro s t e hrun
  rcases run_bind_eq_error.1 hrun with hfirst | ⟨a, u, -, hrest⟩
  · exact hx s t e hfirst
  · exact hf a u t e hrest

theorem raisesOnly_ite {c : Prop} [Decidable c] {x y : EStateM ε σ α} (hx : RaisesOnly P x)
    (hy : RaisesOnly P y) : RaisesOnly P (if c then x else y) := by
  split
  · exact hx
  · exact hy

theorem raisesOnly_liftOutcome {outcome : Except ε α} (h : ∀ e, outcome = .error e → P e) :
    RaisesOnly P (liftOutcome outcome : EStateM ε σ α) := by
  intro s t e hrun
  exact h e (run_liftOutcome_eq_error.1 hrun).1

/-- An outcome whose errors have all been wrapped alike. -/
theorem raisesOnly_mapError {ε' : Type} {g : ε' → ε} (h : ∀ e, P (g e)) (outcome : Except ε' α) :
    RaisesOnly P (liftOutcome (outcome.mapError g) : EStateM ε σ α) := by
  refine raisesOnly_liftOutcome fun e herror => ?_
  obtain ⟨e', -, rfl⟩ := mapError_eq_error.1 herror
  exact h e'

end PulseTimeline
