import PulseTimeline.Proofs.Environment.Access
import PulseTimeline.Proofs.Run.Calls
import PulseTimeline.Proofs.Simulation

set_option autoImplicit false

/-! # What expressions read

An expression reads the variables that it mentions and the random generators, and draws from the
generators is all that it does. Two environments that agree on the mentioned variables therefore
make it the same computation, whatever else they hold. -/

namespace PulseTimeline

/-- The name stands in the expression, as a variable or as an array. -/
inductive Expression.Mentions (name : String) : Expression → Prop where
  | reference : Mentions name (.reference name)
  | cell (index : Expression) : Mentions name (.cell name index)
  | inside {expression operand : Expression} (hoperand : operand ∈ expression.operands)
    (h : Mentions name operand) : Mentions name expression

/-! ## Environments -/

namespace Environment

/-- The environments hold the same under each of the names. -/
def AgreesOn (names : String → Prop) (environment other : Environment) : Prop :=
  ∀ name, names name → environment.find? name = other.find? name

variable {names : String → Prop} {environment other : Environment} {name : String}

theorem AgreesOn.mono {fewer : String → Prop} (h : AgreesOn names environment other)
    (hnames : ∀ name, fewer name → names name) : AgreesOn fewer environment other :=
  fun name hname => h name (hnames name hname)

theorem lookup_congr (h : environment.find? name = other.find? name) :
    environment.lookup name = other.lookup name := by
  rw [lookup, lookup, h]

theorem scalar_congr (h : environment.find? name = other.find? name) :
    environment.scalar name = other.scalar name := by
  rw [scalar, scalar, lookup_congr h]

theorem element_congr (h : environment.find? name = other.find? name) (index : Int64) :
    environment.element name index = other.element name index := by
  rw [element, element, array, array, lookup_congr h]

end Environment

/-! ## Evaluation -/

section

variable {environment other : Environment}

mutual

/-- Where the environments agree on what is mentioned, evaluation is one computation. -/
theorem evaluate_congr : (expression : Expression) →
    environment.AgreesOn expression.Mentions other →
      evaluate environment expression = evaluate other expression
  | .reference name, h => by
      rw [evaluate, evaluate, Environment.scalar_congr (h name .reference)]
  | .literal text type, _ => by rw [evaluate, evaluate]
  | .binary left operator right, h => by
      have hleft := evaluate_congr left (h.mono fun _ => .inside (by simp [Expression.operands]))
      have hright := evaluate_congr right (h.mono fun _ => .inside (by simp [Expression.operands]))
      rw [evaluate, evaluate, hleft, hright]
  | .unary operator operand, h => by
      have hoperand := evaluate_congr operand
        (h.mono fun _ => .inside (by simp [Expression.operands]))
      rw [evaluate, evaluate, hoperand]
  | .call library function arguments, h => by
      have harguments := evaluateAll_congr arguments fun _ hargument =>
        h.mono fun _ => .inside hargument
      rw [evaluate, evaluate, harguments]
  | .cell array index, h => by
      have hindex := evaluate_congr index (h.mono fun _ => .inside (by simp [Expression.operands]))
      have helement := Environment.element_congr (h array (.cell index))
      rw [evaluate, evaluate, hindex]
      simp only [helement]

theorem evaluateAll_congr : (expressions : List Expression) →
    (∀ e ∈ expressions, environment.AgreesOn e.Mentions other) →
      evaluateAll environment expressions = evaluateAll other expressions
  | [], _ => by rw [evaluateAll, evaluateAll]
  | first :: rest, h => by
      obtain ⟨hfirst, hrest⟩ := List.forall_mem_cons.1 h
      rw [evaluateAll, evaluateAll, evaluate_congr first hfirst, evaluateAll_congr rest hrest]

end

end

/-! ## Values -/

namespace Run

/-- What an expression comes to, and the generators after it. -/
theorem exists_outcome (environment : Environment) (expression : Expression)
    (before : Random.Pool) : ∃ outcome random,
      (evaluate environment expression).run before = (liftOutcome outcome).run random := by
  cases (evaluate environment expression).run before with
  | ok v random => exact ⟨.ok v, random, rfl⟩
  | error e random => exact ⟨.error e, random, rfl⟩

variable {expression : Expression} {state : RunState} {outcome : Except RunError Value}
  {random : Random.Pool}

/-- The other parts of the state stay. -/
theorem run_value_of_evaluate (h : (evaluate state.environment expression).run state.random
      = (liftOutcome outcome).run random) :
    (value expression).run state = (liftOutcome outcome).run { state with random } := by
  simp only [EStateM.run] at h
  simp only [EStateM.run, value, h]
  cases outcome <;> rfl

theorem run_integer_of_value
    (h : (value expression).run state = (liftOutcome outcome).run { state with random }) :
    (integer expression).run state
      = (liftOutcome (outcome >>= expectInteger expression)).run { state with random } := by
  rw [integer, EStateM.run_bind, h]
  cases outcome <;> rfl

/-- **Expressions depend on what they mention.** Evaluations with the same generators, in states
    that agree on every variable that the expression mentions, come to the same value or error and
    to the same generators, and change nothing else; so do evaluations as an integer. Without calls
    the generators stay as well. -/
theorem expressions_depend_on_what_they_mention (expression : Expression) (state other : RunState)
    (hrandom : state.random = other.random)
    (hmentioned : ∀ name, expression.Mentions name →
      state.environment.find? name = other.environment.find? name) :
    ∃ (outcome : Except RunError Value) (random : Random.Pool),
      ((value expression).run state = (liftOutcome outcome).run { state with random }
        ∧ (value expression).run other = (liftOutcome outcome).run { other with random })
      ∧ ((integer expression).run state
          = (liftOutcome (outcome >>= expectInteger expression)).run { state with random }
        ∧ (integer expression).run other
          = (liftOutcome (outcome >>= expectInteger expression)).run { other with random })
      ∧ (expression.CallFree → random = state.random) := by
  obtain ⟨outcome, random, hevaluate⟩ :=
    exists_outcome state.environment expression state.random
  have hother : (evaluate other.environment expression).run other.random
      = (liftOutcome outcome).run random := by
    rw [← evaluate_congr expression hmentioned, ← hrandom, hevaluate]
  have hleft := run_value_of_evaluate hevaluate
  have hright := run_value_of_evaluate hother
  refine ⟨outcome, random, ⟨hleft, hright⟩,
    ⟨run_integer_of_value hleft, run_integer_of_value hright⟩, fun hfree => ?_⟩
  have hstayed := (stepwise_evaluate_of_callFree state.environment hfree).related eq_equivalence
    state.random
  rw [hstayed, stateAfter, hevaluate]
  cases outcome <;> rfl

/-- A draw with a variable as its seed and its bound is the same beside another variable and a
    saved result. -/
theorem dependence_of_seeded_draw :
    let draw := Expression.call "Random" "rand_int" [.reference "n", .reference "n"]
    let state : RunState :=
      ⟨Environment.empty.put "n" (.scalar (.int 10)), .empty, .empty, .empty⟩
    let other : RunState := { state with
      environment := state.environment.put "m" (.scalar (.bool true))
      streams := Table.empty.insert "r" [.int 1] }
    (∀ name, draw.Mentions name → state.environment.find? name = other.environment.find? name)
    ∧ ∃ random, (value draw).run state = .ok (.int 1) { state with random }
      ∧ (value draw).run other = .ok (.int 1) { other with random }
      ∧ (integer draw).run other = .ok 1 { other with random } := by
  intro draw state other
  have hmentioned : ∀ name, draw.Mentions name →
      state.environment.find? name = other.environment.find? name := by
    intro name hname
    simp only [draw] at hname
    cases hname with
    | inside hargument hname =>
        obtain rfl : _ = Expression.reference "n" := by
          simpa [Expression.operands] using hargument
        cases hname with
        | reference => rfl
        | inside hoperand _ => exact absurd hoperand List.not_mem_nil
  obtain ⟨outcome, random, ⟨hstate, hother⟩, ⟨-, hinteger⟩, -⟩ :=
    expressions_depend_on_what_they_mention draw state other rfl hmentioned
  have hvalue : outcome = .ok (.int 1) := by
    have hdrawn : (match (value draw).run state with
        | .ok v _ => decide (v = .int 1)
        | .error _ _ => false) = true := by decide +kernel
    rw [hstate] at hdrawn
    cases outcome with
    | ok v => exact congrArg Except.ok (of_decide_eq_true hdrawn)
    | error e => cases hdrawn
  subst hvalue
  exact ⟨hmentioned, random, hstate, hother, hinteger⟩

end Run

end PulseTimeline
