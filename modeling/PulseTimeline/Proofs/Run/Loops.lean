import PulseTimeline.Proofs.Computation
import PulseTimeline.Run.Execute

set_option autoImplicit false

/-! # How often a loop runs

A loop makes a full round when its condition holds and its body succeeds. It makes full rounds for
as long as it can, but no more than its limit, and is over when the condition does not hold. The
limit is looked at between condition and body: a loop that has made all its rounds may still find
that its condition does not hold, and if it does hold, the body is not run again. `LoopEnds` lists
the ways in which a loop ends; the last theorem says that a loop always ends in exactly one of
them. -/

namespace PulseTimeline

namespace Run

/-! ## Rounds -/

/-- A full round of a loop: the condition holds, and the body succeeds. -/
def FullRound (test : Run Bool) (body : Run Unit) (state next : RunState) : Prop :=
  ∃ tested, test.run state = .ok true tested ∧ body.run tested = .ok () next

/-- As many full rounds as the number says lead from one state to the other. -/
inductive FullRounds (test : Run Bool) (body : Run Unit) :
    Nat → RunState → RunState → Prop where
  | none (state : RunState) : FullRounds test body 0 state state
  | more {count : Nat} {state next last : RunState} (hround : FullRound test body state next)
    (hrest : FullRounds test body count next last) :
    FullRounds test body (count + 1) state last

/-- How a loop ends that begins with its condition in a state and may make as many full rounds as
    the limit says. -/
inductive LoopEnds (limit : Nat) (test : Run Bool) (body : Run Unit) (first : RunState) :
    EStateM.Result RunError RunState Unit → Prop where
  /-- The condition does not hold any more. -/
  | finished {count : Nat} {reached last : RunState} (hcount : count ≤ limit)
    (hrounds : FullRounds test body count first reached)
    (htest : test.run reached = .ok false last) :
    LoopEnds limit test body first (.ok () last)
  /-- The condition holds after as many rounds as there may be. The body is not run again. -/
  | stopped {reached last : RunState} (hrounds : FullRounds test body limit first reached)
    (htest : test.run reached = .ok true last) :
    LoopEnds limit test body first (.error (.iterationLimitExceeded limit) last)
  /-- The condition fails, at the latest after all rounds. -/
  | testFails {count : Nat} {reached last : RunState} {e : RunError} (hcount : count ≤ limit)
    (hrounds : FullRounds test body count first reached)
    (htest : test.run reached = .error e last) :
    LoopEnds limit test body first (.error e last)
  /-- The body fails in a round that it may make. -/
  | bodyFails {count : Nat} {reached tested last : RunState} {e : RunError} (hcount : count < limit)
    (hrounds : FullRounds test body count first reached)
    (htest : test.run reached = .ok true tested)
    (hbody : body.run tested = .error e last) :
    LoopEnds limit test body first (.error e last)

variable {test : Run Bool} {body : Run Unit}

/-- A loop makes full rounds until there are as many as it may make, or no further one succeeds. -/
theorem exists_fullRounds (test : Run Bool) (body : Run Unit) (most : Nat)
    (state : RunState) :
    ∃ count reached, count ≤ most ∧ FullRounds test body count state reached
      ∧ (count < most → ∀ next, ¬ FullRound test body reached next) := by
  induction most generalizing state with
  | zero => exact ⟨0, state, Nat.le_refl 0, .none state, fun h => absurd h (Nat.lt_irrefl 0)⟩
  | succ most ih =>
      by_cases hround : ∃ next, FullRound test body state next
      · obtain ⟨next, hnext⟩ := hround
        obtain ⟨count, reached, hcount, hrounds, hlast⟩ := ih next
        exact ⟨count + 1, reached, Nat.succ_le_succ hcount, .more hnext hrounds,
          fun h => hlast (Nat.lt_of_succ_lt_succ h)⟩
      · exact ⟨0, state, Nat.zero_le _, .none state, fun _ next hnext => hround ⟨next, hnext⟩⟩

/-! ## Loops -/

/-- What a loop does next: it tests its condition, then looks at how many rounds remain. -/
theorem run_repeatWhile (limit : Nat) (test : Run Bool) (body : Run Unit) (remaining : Nat)
    (state : RunState) :
    (repeatWhile limit test body remaining).run state = match test.run state with
      | .error e last => .error e last
      | .ok false last => .ok () last
      | .ok true tested => match remaining with
        | 0 => .error (.iterationLimitExceeded limit) tested
        | remaining + 1 => match body.run tested with
          | .error e last => .error e last
          | .ok _ next => (repeatWhile limit test body remaining).run next := by
  cases remaining with
  | zero =>
      rw [repeatWhile, EStateM.run_bind]
      cases test.run state with
      | error e last => rfl
      | ok holds tested => cases holds <;> rfl
  | succ remaining =>
      rw [repeatWhile, EStateM.run_bind]
      cases test.run state with
      | error e last => rfl
      | ok holds tested =>
          cases holds with
          | false => rfl
          | true =>
              simp only [if_true, EStateM.run_bind]
              cases body.run tested <;> rfl

/-- Full rounds use up as many of the rounds that a loop may make. -/
theorem run_repeatWhile_of_fullRounds {count : Nat} {state last : RunState}
    (h : FullRounds test body count state last) (limit : Nat) {most more : Nat}
    (hmost : most = count + more) :
    (repeatWhile limit test body most).run state = (repeatWhile limit test body more).run last := by
  induction h generalizing most with
  | none state => rw [hmost, Nat.zero_add]
  | @more count state next last hround _ ih =>
      obtain ⟨tested, htest, hbody⟩ := hround
      rw [hmost, Nat.succ_add, run_repeatWhile, htest]
      simp only [hbody]
      exact ih rfl

/-- A loop ends as it may. -/
theorem loopEnds_of_run (limit : Nat) (test : Run Bool) (body : Run Unit)
    (first : RunState) :
    LoopEnds limit test body first ((repeatWhile limit test body limit).run first) := by
  obtain ⟨count, reached, hcount, hrounds, hlast⟩ := exists_fullRounds test body limit first
  obtain ⟨more, hmore⟩ : ∃ more, limit = count + more := Nat.exists_eq_add_of_le hcount
  rw [run_repeatWhile_of_fullRounds hrounds limit hmore, run_repeatWhile]
  cases htest : test.run reached with
  | error e last => exact .testFails hcount hrounds htest
  | ok holds tested =>
      cases holds with
      | false => exact .finished hcount hrounds htest
      | true =>
          cases more with
          | zero =>
              have hall : count = limit := hmore.symm
              subst hall
              exact .stopped hrounds htest
          | succ more =>
              have hfewer : count < limit := by omega
              cases hbody : body.run tested with
              | error e last =>
                  simp only [hbody]
                  exact .bodyFails hfewer hrounds htest hbody
              | ok u next => exact absurd ⟨tested, htest, hbody⟩ (hlast hfewer next)

/-- In whatever way a loop may end, it ends so. -/
theorem LoopEnds.run_eq {limit : Nat} {first : RunState}
    {result : EStateM.Result RunError RunState Unit}
    (h : LoopEnds limit test body first result) :
    (repeatWhile limit test body limit).run first = result := by
  cases h with
  | finished hcount hrounds htest =>
      obtain ⟨more, hmore⟩ := Nat.exists_eq_add_of_le hcount
      rw [run_repeatWhile_of_fullRounds hrounds limit hmore, run_repeatWhile, htest]
  | stopped hrounds htest =>
      have hmore : limit = limit + 0 := (Nat.add_zero limit).symm
      rw [run_repeatWhile_of_fullRounds hrounds limit hmore, run_repeatWhile, htest]
  | testFails hcount hrounds htest =>
      obtain ⟨more, hmore⟩ := Nat.exists_eq_add_of_le hcount
      rw [run_repeatWhile_of_fullRounds hrounds limit hmore, run_repeatWhile, htest]
  | @bodyFails count _ _ _ _ hcount hrounds htest hbody =>
      obtain ⟨more, hmore⟩ : ∃ more, limit = count + (more + 1) := Nat.exists_eq_add_of_lt hcount
      rw [run_repeatWhile_of_fullRounds hrounds limit hmore, run_repeatWhile, htest]
      simp only [hbody]

theorem run_repeatWhile_eq_iff (limit : Nat) (test : Run Bool) (body : Run Unit)
    (first : RunState) (result : EStateM.Result RunError RunState Unit) :
    (repeatWhile limit test body limit).run first = result
      ↔ LoopEnds limit test body first result := by
  constructor
  · rintro rfl
    exact loopEnds_of_run limit test body first
  · exact LoopEnds.run_eq

/-! ## Loop statements -/

/-- **Loops run as often as their conditions say.** Once the initial block has succeeded, a loop
    statement ends in exactly one of the ways in which a loop may end. It succeeds exactly if the
    condition does not hold after a number of full rounds, each of the body and the update, that is
    within the limit. -/
theorem loops_run_as_often_as_they_hold {setup : Setup} {state first : RunState}
    {init : List Statement} (hinit : (executeBlock setup init).run state = .ok () first)
    (guard : Expression) (update body : List Statement) :
    let limit := setup.settings.maxLoopIterations
    let round : Run Unit := do executeBlock setup body; executeBlock setup update
    (∀ result, (execute setup (.loop init guard update body)).run state = result
      ↔ LoopEnds limit (condition guard) round first result)
    ∧ (∀ last, (execute setup (.loop init guard update body)).run state = .ok () last
      ↔ ∃ count ≤ limit, ∃ reached, FullRounds (condition guard) round count first reached
        ∧ (condition guard).run reached = .ok false last)
    ∧ ∃! result, LoopEnds limit (condition guard) round first result := by
  intro limit round
  have hloop : (execute setup (.loop init guard update body)).run state
      = (repeatWhile limit (condition guard) round limit).run first := by
    rw [execute, EStateM.run_bind, hinit]
  have hends : ∀ result, (execute setup (.loop init guard update body)).run state = result
      ↔ LoopEnds limit (condition guard) round first result := by
    intro result
    rw [hloop]
    exact run_repeatWhile_eq_iff limit (condition guard) round first result
  refine ⟨hends, fun last => ?_, _, (hends _).1 rfl, ?_⟩
  · rw [hends]
    constructor
    · intro h
      cases h with
      | finished hcount hrounds htest => exact ⟨_, hcount, _, hrounds, htest⟩
    · rintro ⟨count, hcount, reached, hrounds, htest⟩
      exact .finished hcount hrounds htest
  · exact fun other hother => ((hends other).2 hother).symm

/-- Whether a counter is below a bound. -/
def counterBelow (bound : String) : Expression :=
  .binary (.reference "i") .lessThan (.literal bound none)

/-- A wait of three clock cycles for as long as a counter is below a bound. -/
def waitUpTo (bound : String) : Statement :=
  .loop [.assign (.reference "i") (.literal "0" none)] (counterBelow bound)
    [.assign (.reference "i") (.binary (.reference "i") .add (.literal "1" none))]
    [.wait (.literal "3" none) ["qe1"]]

/-- Under a limit of two rounds a counter gets to two, and a loop that would take it to three is
    stopped, also after two waits. -/
theorem rounds_of_counter :
    let setup : Setup :=
      ⟨⟨.ofList [("qe1", ⟨none, none, .empty, none⟩)], .empty, .empty⟩, .empty, ⟨4, 2, 8⟩⟩
    let init : List Statement := [.assign (.reference "i") (.literal "0" none)]
    let update : List Statement :=
      [.assign (.reference "i") (.binary (.reference "i") .add (.literal "1" none))]
    let body : List Statement := [.wait (.literal "3" none) ["qe1"]]
    let round : Run Unit := do executeBlock setup body; executeBlock setup update
    let state : RunState := ⟨⟨.ofList [("i", .scalar (.int 7))]⟩, .empty, .empty, .empty⟩
    ∃ first, (executeBlock setup init).run state = .ok () first
      ∧ (∃ last count reached, (execute setup (waitUpTo "2")).run state = .ok () last
        ∧ count ≤ 2 ∧ FullRounds (condition (counterBelow "2")) round count first reached
        ∧ (last.timelines.find? "qe1").map Timeline.cursor = some 24)
      ∧ ∃ last, (execute setup (waitUpTo "3")).run state = .error (.iterationLimitExceeded 2) last
        ∧ LoopEnds 2 (condition (counterBelow "3")) round first
          (.error (.iterationLimitExceeded 2) last)
        ∧ (last.timelines.find? "qe1").map Timeline.cursor = some 24 := by
  intro setup init update body round state
  obtain ⟨first, hinit⟩ : ∃ first, (executeBlock setup init).run state = .ok () first := ⟨_, rfl⟩
  have hwaits : (stateIfOk? (execute setup (waitUpTo "2")) state).map
      (fun last => (last.timelines.find? "qe1").map Timeline.cursor) = some (some 24) := by
    decide +kernel
  obtain ⟨last, hlast, hwaited⟩ := Option.map_eq_some_iff.1 hwaits
  obtain ⟨u, hover⟩ := stateIfOk?_eq_some_iff.1 hlast
  have hfails : errorIfFailed? (execute setup (waitUpTo "3")) state
      = some (.iterationLimitExceeded 2) := by decide +kernel
  obtain ⟨stopped, hstops⟩ := errorIfFailed?_eq_some_iff.1 hfails
  have hwaitedToo : ((stateAfter (execute setup (waitUpTo "3")) state).timelines.find? "qe1").map
      Timeline.cursor = some 24 := by decide +kernel
  rw [stateAfter_of_error hstops] at hwaitedToo
  obtain ⟨-, hsucceeds, -⟩ :=
    loops_run_as_often_as_they_hold hinit (counterBelow "2") update body
  obtain ⟨hends, -, -⟩ := loops_run_as_often_as_they_hold hinit (counterBelow "3") update body
  obtain ⟨count, hcount, reached, hrounds, -⟩ := (hsucceeds last).1 hover
  exact ⟨first, hinit, ⟨last, count, reached, hover, hcount, hrounds, hwaited⟩,
    stopped, hstops, (hends _).1 hstops, hwaitedToo⟩

end Run

end PulseTimeline
