import PulseTimeline.Proofs.Run.Steps

set_option autoImplicit false

/-! # Expressions without calls

Only calls draw random numbers. An expression without them has its outcome from the variables alone,
whatever the generators are, and leaves them as they are; so it can be evaluated again, or left
out. -/

namespace PulseTimeline

theorem liftOutcome_bind {ε σ α β : Type} (outcome : Except ε α) (f : α → Except ε β) :
    (liftOutcome outcome >>= fun a => liftOutcome (f a) : EStateM ε σ β)
      = liftOutcome (outcome >>= f) := by
  cases outcome <;> rfl

theorem exists_outcome_of_callFree (environment : Environment) :
    (expression : Expression) → expression.CallFree →
      ∃ outcome, evaluate environment expression = liftOutcome outcome
  | .reference name, _ => ⟨_, by rw [evaluate]⟩
  | .literal text type, _ => ⟨_, by rw [evaluate]⟩
  | .binary left operator right, hfree => by
      have hleft := hfree.inside left (by simp [Expression.operands])
      have hright := hfree.inside right (by simp [Expression.operands])
      obtain ⟨l, hl⟩ := exists_outcome_of_callFree environment left hleft
      obtain ⟨r, hr⟩ := exists_outcome_of_callFree environment right hright
      rw [evaluate, hl, hr]
      simp only [liftOutcome_bind]
      exact ⟨_, rfl⟩
  | .unary operator operand, hfree => by
      have hoperand := hfree.inside operand (by simp [Expression.operands])
      obtain ⟨outcome, houtcome⟩ := exists_outcome_of_callFree environment operand hoperand
      rw [evaluate, houtcome]
      simp only [liftOutcome_bind]
      exact ⟨_, rfl⟩
  | .call library function arguments, hfree => absurd rfl (hfree.here library function arguments)
  | .cell array index, hfree => by
      have hindex := hfree.inside index (by simp [Expression.operands])
      obtain ⟨outcome, houtcome⟩ := exists_outcome_of_callFree environment index hindex
      rw [evaluate, houtcome]
      simp only [liftOutcome_bind]
      exact ⟨_, rfl⟩

variable {expression : Expression}

theorem stepwise_evaluate_of_callFree (environment : Environment) (hfree : expression.CallFree) :
    Stepwise Eq (evaluate environment expression) := by
  obtain ⟨outcome, houtcome⟩ := exists_outcome_of_callFree environment expression hfree
  rw [houtcome]
  exact stepwise_liftOutcome outcome

namespace Run

/-- Whatever has been drawn in the meantime, the expression has the same outcome again. -/
theorem run_value_of_callFree (hfree : expression.CallFree) (state : RunState) :
    ∃ outcome : Except RunError Value, ∀ random,
      (value expression).run { state with random }
        = (liftOutcome outcome).run { state with random } := by
  obtain ⟨outcome, houtcome⟩ := exists_outcome_of_callFree state.environment expression hfree
  refine ⟨outcome, fun random => ?_⟩
  simp only [EStateM.run, value, houtcome]
  cases outcome <;> rfl

end Run

end PulseTimeline
