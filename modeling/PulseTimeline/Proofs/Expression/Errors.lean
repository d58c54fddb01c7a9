import PulseTimeline.Proofs.Store.Errors
import PulseTimeline.Proofs.Syntax
import PulseTimeline.Run.Evaluate

set_option autoImplicit false

/-! # What expressions raise

An expression whose literals can be read fails only in ways that depend on the variables, the
operators and the functions. -/

namespace PulseTimeline

/-! ## Variables -/

namespace Environment

variable {environment : Environment} {name : String} {e : RunError}

theorem isPossible_of_lookup (h : environment.lookup name = .error e) : e.IsPossible := by
  unfold lookup at h
  split at h
  · cases h
  · cases h
    trivial

theorem isPossible_of_scalar (h : environment.scalar name = .error e) : e.IsPossible := by
  rcases except_bind_eq_error.1 h with hlookup | ⟨found, -, hfound⟩
  · exact isPossible_of_lookup hlookup
  · cases found with
    | scalar value => cases hfound
    | array type values =>
        cases hfound
        trivial

theorem isPossible_of_slot {index : Int64} {length : Nat} (h : slot name index length = .error e) :
    e.IsPossible := by
  unfold slot at h
  split at h
  · cases h
  · cases h
    trivial

theorem isPossible_of_element {index : Int64} (h : environment.element name index = .error e) :
    e.IsPossible := by
  rcases except_bind_eq_error.1 h with harray | ⟨values, -, h⟩
  · rcases except_bind_eq_error.1 harray with hlookup | ⟨found, -, hfound⟩
    · exact isPossible_of_lookup hlookup
    · cases found with
      | scalar value =>
          cases hfound
          trivial
      | array type values => cases hfound
  · rcases except_bind_eq_error.1 h with hslot | ⟨position, -, hposition⟩
    · exact isPossible_of_slot hslot
    · cases hposition

theorem raisesOnly_assign (name : String) (value : Value) :
    RaisesOnly RunError.IsPossible (assign name value) := by
  intro environment next e hrun
  simp only [EStateM.run, assign] at hrun
  split at hrun
  · next hlookup =>
      cases hrun
      exact isPossible_of_lookup hlookup
  · cases hrun
  · cases hrun
    trivial

theorem raisesOnly_assignElement (name : String) (index : Int64) (value : Value) :
    RaisesOnly RunError.IsPossible (assignElement name index value) := by
  intro environment next e hrun
  simp only [EStateM.run, assignElement] at hrun
  split at hrun
  · next hlookup =>
      cases hrun
      exact isPossible_of_lookup hlookup
  · cases hrun
    trivial
  · split at hrun
    · next hslot =>
        cases hrun
        exact isPossible_of_slot hslot
    · cases hrun

end Environment

/-! ## Expressions -/

theorem isPossible_of_expectInteger {expression : Expression} {v : Value} {e : RunError}
    (h : expectInteger expression v = .error e) : e.IsPossible := by
  unfold expectInteger at h
  split at h
  · cases h
  · cases h
    trivial

theorem raisesOnly_callFunction (library name : String) (arguments : List Value) :
    RaisesOnly RunError.IsPossible (callFunction library name arguments) := by
  unfold callFunction
  split
  · exact raisesOnly_throw trivial
  · exact raisesOnly_pure _
  · refine raisesOnly_bind (fun pool next e hrun => ?_) fun n => raisesOnly_pure _
    simp only [EStateM.run, Random.randInt] at hrun
    split at hrun
    · cases hrun
      trivial
    · cases hrun
  · exact raisesOnly_throw trivial

mutual

/-- Literals are the only expressions that could fail in a way that is ruled out. -/
theorem raisesOnly_evaluate (environment : Environment) :
    (expression : Expression) → expression.HasReadableLiterals →
      RaisesOnly RunError.IsPossible (evaluate environment expression)
  | .reference name, _ => by
      rw [evaluate]
      exact raisesOnly_liftOutcome fun e => Environment.isPossible_of_scalar
  | .literal text type, hliterals => by
      rw [evaluate]
      obtain ⟨value, hvalue⟩ := hliterals.here text type rfl
      refine raisesOnly_liftOutcome fun e herror => ?_
      rw [hvalue] at herror
      cases herror
  | .binary left operator right, hliterals => by
      rw [evaluate]
      refine raisesOnly_bind (raisesOnly_evaluate environment left ?_) fun l => ?_
      · exact hliterals.inside left (by simp [Expression.operands])
      refine raisesOnly_bind (raisesOnly_evaluate environment right ?_) fun r => ?_
      · exact hliterals.inside right (by simp [Expression.operands])
      exact raisesOnly_mapError (fun _ => trivial) _
  | .unary operator operand, hliterals => by
      rw [evaluate]
      refine raisesOnly_bind (raisesOnly_evaluate environment operand ?_) fun v => ?_
      · exact hliterals.inside operand (by simp [Expression.operands])
      exact raisesOnly_mapError (fun _ => trivial) _
  | .call library function arguments, hliterals => by
      rw [evaluate]
      refine raisesOnly_bind (raisesOnly_evaluateAll environment arguments hliterals.inside) ?_
      exact fun values => raisesOnly_callFunction library function values
  | .cell array index, hliterals => by
      rw [evaluate]
      refine raisesOnly_bind (raisesOnly_evaluate environment index ?_) fun v => ?_
      · exact hliterals.inside index (by simp [Expression.operands])
      refine raisesOnly_bind (raisesOnly_liftOutcome fun e => isPossible_of_expectInteger) ?_
      exact fun position => raisesOnly_liftOutcome fun e => Environment.isPossible_of_element

theorem raisesOnly_evaluateAll (environment : Environment) :
    (expressions : List Expression) → (∀ e ∈ expressions, e.HasReadableLiterals) →
      RaisesOnly RunError.IsPossible (evaluateAll environment expressions)
  | [], _ => by
      rw [evaluateAll]
      exact raisesOnly_pure []
  | first :: rest, hliterals => by
      rw [evaluateAll]
      obtain ⟨hfirst, hrest⟩ := List.forall_mem_cons.1 hliterals
      refine raisesOnly_bind (raisesOnly_evaluate environment first hfirst) fun v => ?_
      exact raisesOnly_bind (raisesOnly_evaluateAll environment rest hrest) fun values =>
        raisesOnly_pure _

end

end PulseTimeline
