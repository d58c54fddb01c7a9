import PulseTimeline.Proofs.Run.Calls
import PulseTimeline.Proofs.Statement.Expansion

set_option autoImplicit false

/-! # Running what a program stands for

Nothing is left in the expansion of a program that stands for something else, and it runs like the
program, from every state: it leaves the same state, draws the same random numbers and fails with
the same error. The one step where the two runs differ is at a switch. The comparisons evaluate its
subject again for every case, and the cases before may have drawn random numbers in between; a
subject without calls has the same outcome all the same. -/

namespace PulseTimeline

/-! ## Nothing is left to expand -/

namespace Statement

section

variable {body : List Statement} {guarded : List (Expression × List Statement)}
  {otherwise : Option (List Statement)} (hguarded : PlainBlock (guarded.flatMap Prod.snd))
  (hotherwise : PlainBlock (otherwise.getD []))

include hguarded hotherwise

theorem plainBlock_nested : PlainBlock ((nested guarded otherwise).getD []) := by
  induction guarded with
  | nil => exact hotherwise
  | cons first rest ih =>
      obtain ⟨guard, body⟩ := first
      obtain ⟨hbody, hrest⟩ := List.forall_mem_append.1 hguarded
      have hbodies := List.forall_mem_append.2 ⟨hbody, List.forall_mem_nil _⟩
      exact List.forall_mem_singleton.2 ⟨rfl, List.forall_mem_append.2 ⟨hbodies, ih hrest⟩⟩

theorem plain_unchained (guard : Expression) (hbody : PlainBlock body) :
    (unchained (branch guard body guarded otherwise)).Everywhere IsPlain := by
  have helse := plainBlock_nested hguarded hotherwise
  have hbodies := List.forall_mem_append.2 ⟨hbody, List.forall_mem_nil _⟩
  exact ⟨rfl, List.forall_mem_append.2 ⟨hbodies, helse⟩⟩

theorem plain_compared (subject : Expression) :
    (unchained (compared subject otherwise guarded)).Everywhere IsPlain := by
  cases guarded with
  | nil => exact ⟨fun _ => rfl, hotherwise⟩
  | cons first rest =>
      obtain ⟨value, body⟩ := first
      by_cases hfree : subject.CallFree
      · obtain ⟨hbody, hrest⟩ := List.forall_mem_append.1 hguarded
        have hblocks : (comparisons subject rest).flatMap Prod.snd = rest.flatMap Prod.snd := by
          rw [comparisons, List.flatMap_map]
        rw [compared, if_pos hfree]
        exact plain_unchained (hblocks ▸ hrest) hotherwise _ hbody
      · rw [compared, if_neg hfree]
        exact ⟨fun h => absurd h hfree, List.forall_mem_append.2 ⟨hguarded, hotherwise⟩⟩

end

mutual

theorem plainBlock_expanded (statement : Statement) : PlainBlock statement.expanded := by
  cases statement with
  | branch guard body elseIfs elseBody =>
      rw [expanded]
      have hbranch := plain_unchained (plainBlock_guardedExpanded elseIfs)
        (plainBlock_optionalExpanded elseBody) guard (plainBlock_blockExpanded body)
      exact List.forall_mem_singleton.2 hbranch
  | loop init guard update body =>
      rw [expanded]
      have hblocks := List.forall_mem_append.2
        ⟨plainBlock_blockExpanded init, plainBlock_blockExpanded update⟩
      refine List.forall_mem_singleton.2 ⟨trivial, ?_⟩
      exact List.forall_mem_append.2 ⟨hblocks, plainBlock_blockExpanded body⟩
  | switch subject cases default =>
      rw [expanded]
      have hswitch := plain_compared (plainBlock_guardedExpanded cases)
        (plainBlock_optionalExpanded default) subject
      exact List.forall_mem_singleton.2 hswitch
  | strictTiming body =>
      rw [expanded]
      exact plainBlock_blockExpanded body
  -- Every other statement is a single one, with no statements inside.
  | _ => exact List.forall_mem_singleton.2 ⟨trivial, List.forall_mem_nil _⟩

theorem plainBlock_blockExpanded : (block : List Statement) → PlainBlock (blockExpanded block)
  | [] => by
      rw [blockExpanded]
      exact List.forall_mem_nil _
  | first :: rest => by
      rw [blockExpanded]
      exact List.forall_mem_append.2 ⟨plainBlock_expanded first, plainBlock_blockExpanded rest⟩

theorem plainBlock_guardedExpanded : (guarded : List (Expression × List Statement)) →
    PlainBlock ((guardedExpanded guarded).flatMap Prod.snd)
  | [] => by
      rw [guardedExpanded]
      exact List.forall_mem_nil _
  | (guard, body) :: rest => by
      rw [guardedExpanded]
      exact List.forall_mem_append.2
        ⟨plainBlock_blockExpanded body, plainBlock_guardedExpanded rest⟩

theorem plainBlock_optionalExpanded : (body : Option (List Statement)) →
    PlainBlock ((optionalExpanded body).getD [])
  | none => by
      rw [optionalExpanded]
      exact List.forall_mem_nil _
  | some body => by
      rw [optionalExpanded]
      exact plainBlock_blockExpanded body

end

end Statement

namespace Run

variable {setup : Setup}

/-! ## Chains of blocks -/

theorem executeBlock_append (first second : List Statement) :
    executeBlock setup (first ++ second) = (do
      executeBlock setup first
      executeBlock setup second) := by
  induction first with
  | nil =>
      rw [List.nil_append, executeBlock, pure_bind]
  | cons statement rest ih =>
      rw [List.cons_append, executeBlock, executeBlock, ih, bind_assoc]

theorem executeBlock_singleton (statement : Statement) :
    executeBlock setup [statement] = execute setup statement := by
  rw [executeBlock, executeBlock]
  exact bind_pure _

/-- Run the first of several blocks whose expression passes a test, or what else there is. -/
def executeChain (setup : Setup) (test : Expression → Run Bool)
    (guarded : List (Expression × List Statement)) (otherwise : Option (List Statement)) :
    Run Unit := do
  if ← executeFirst setup test guarded then pure ()
  else executeOptional setup otherwise

section

variable (test : Expression → Run Bool) (rest : List (Expression × List Statement))
  (otherwise : Option (List Statement))

theorem executeChain_nil :
    executeChain setup test [] otherwise = executeOptional setup otherwise := by
  rw [executeChain, executeFirst, pure_bind]
  rfl

theorem executeChain_cons (guard : Expression) (body : List Statement) :
    executeChain setup test ((guard, body) :: rest) otherwise = (do
      if ← test guard then executeBlock setup body
      else executeChain setup test rest otherwise) := by
  rw [executeChain, executeFirst, bind_assoc]
  refine bind_congr fun passes => ?_
  cases passes with
  | false => rfl
  | true => simp

end

theorem execute_branch (guard : Expression) (body : List Statement)
    (elseIfs : List (Expression × List Statement)) (elseBody : Option (List Statement)) :
    execute setup (.branch guard body elseIfs elseBody)
      = executeChain setup condition ((guard, body) :: elseIfs) elseBody := by
  rw [execute, executeChain_cons]
  rfl

theorem execute_switch (subject : Expression) (cases : List (Expression × List Statement))
    (default : Option (List Statement)) :
    execute setup (.switch subject cases default)
      = value subject >>= fun v => executeChain setup (matchesCase v) cases default := by
  rw [execute]
  rfl

/-! ## Further conditions -/

theorem executeOptional_nested (guarded : List (Expression × List Statement))
    (otherwise : Option (List Statement)) :
    executeOptional setup (Statement.nested guarded otherwise)
      = executeChain setup condition guarded otherwise := by
  induction guarded with
  | nil => rw [Statement.nested, executeChain_nil]
  | cons first rest ih =>
      obtain ⟨guard, body⟩ := first
      rw [Statement.nested, executeOptional, executeBlock_singleton, execute_branch,
        executeChain_cons, executeChain_cons, executeChain_nil, ih]

theorem execute_unchained (statement : Statement) :
    execute setup statement.unchained = execute setup statement := by
  cases statement with
  | branch guard body elseIfs elseBody =>
      rw [Statement.unchained, execute_branch, execute_branch, executeChain_cons,
        executeChain_cons, executeChain_nil, executeOptional_nested]
  | _ => rfl

/-! ## Switches -/

/-- Both operands are values of their own, evaluated from left to right. -/
theorem value_binary (left : Expression) (operator : BinaryOperator) (right : Expression) :
    value (.binary left operator right) = (do
      let l ← value left
      let r ← value right
      liftOutcome ((operator.calculate l r).mapError .operator)) := by
  funext state
  simp only [value, evaluate, bind, EStateM.bind]
  cases evaluate state.environment left state.random with
  | error e random => rfl
  | ok l random =>
      dsimp only
      cases evaluate state.environment right random with
      | error e random => rfl
      | ok r random =>
          dsimp only
          cases (operator.calculate l r).mapError RunError.operator <;> rfl

/-- A comparison of the subject is a case of its value. -/
theorem condition_equal (subject expression : Expression) :
    condition (.binary subject .equal expression)
      = value subject >>= fun v => matchesCase v expression := by
  rw [condition, value_binary, bind_assoc]
  refine bind_congr fun v => ?_
  rw [matchesCase, bind_assoc]

/-- A case that has been looked at leaves everything but the generators as it was. -/
theorem run_matchesCase_eq_ok {v : Value} {expression : Expression} {state last : RunState}
    {equal : Bool} (h : (matchesCase v expression).run state = .ok equal last) :
    ∃ random, last = { state with random } := by
  obtain ⟨w, next, hvalue, h⟩ := run_bind_eq_ok.1 h
  obtain ⟨result, last', hequal, h⟩ := run_bind_eq_ok.1 h
  obtain ⟨-, rfl⟩ := run_liftOutcome_eq_ok.1 hequal
  obtain ⟨-, rfl⟩ := run_pure_eq_ok.1 h
  have hnext := stateAfter_value expression state
  rw [stateAfter_of_ok hvalue] at hnext
  exact ⟨_, hnext⟩

/-- While the subject has one value whatever is drawn, its comparisons run like the cases. -/
theorem run_executeChain_comparisons {subject : Expression} {state : RunState} {v : Value}
    (hsubject : ∀ random, (value subject).run { state with random } = .ok v { state with random })
    (cases : List (Expression × List Statement)) (default : Option (List Statement))
    (random : Random.Pool) :
    (executeChain setup condition (Statement.comparisons subject cases) default).run
        { state with random }
      = (executeChain setup (matchesCase v) cases default).run { state with random } := by
  induction cases generalizing random with
  | nil => rw [Statement.comparisons, List.map_nil, executeChain_nil, executeChain_nil]
  | cons first rest ih =>
      obtain ⟨expression, body⟩ := first
      have hcomparisons : Statement.comparisons subject ((expression, body) :: rest)
          = (.binary subject .equal expression, body) :: Statement.comparisons subject rest := rfl
      rw [hcomparisons, executeChain_cons, executeChain_cons, condition_equal, bind_assoc,
        EStateM.run_bind, hsubject random]
      show (matchesCase v expression >>= _).run _ = _
      rw [EStateM.run_bind, EStateM.run_bind]
      cases hmatches : (matchesCase v expression).run { state with random } with
      | error e last => rfl
      | ok equal last =>
          -- The next comparison starts with other generators, and nothing else is new.
          obtain ⟨random', rfl⟩ := run_matchesCase_eq_ok hmatches
          cases equal with
          | true => rfl
          | false => exact ih random'

theorem execute_compared (subject : Expression) (cases : List (Expression × List Statement))
    (default : Option (List Statement)) :
    execute setup (Statement.compared subject default cases)
      = execute setup (.switch subject cases default) := by
  cases cases with
  | nil => rfl
  | cons first rest =>
      obtain ⟨expression, body⟩ := first
      by_cases hfree : subject.CallFree
      · rw [Statement.compared, if_pos hfree, execute_branch, execute_switch]
        funext state
        obtain ⟨outcome, houtcome⟩ := run_value_of_callFree hfree state
        show (executeChain setup condition _ default).run state
          = (value subject >>= fun v => executeChain setup (matchesCase v) _ default).run state
        cases outcome with
        | ok v =>
            have hsubject : (value subject).run state = .ok v state := houtcome state.random
            rw [EStateM.run_bind, hsubject]
            exact run_executeChain_comparisons houtcome ((expression, body) :: rest) default _
        | error e =>
            -- The first comparison fails like the switch, before any case is looked at.
            have hsubject : (value subject).run state = .error e state := houtcome state.random
            rw [executeChain_cons, condition_equal, bind_assoc, EStateM.run_bind,
              EStateM.run_bind, hsubject]
      · rw [Statement.compared, if_neg hfree]

/-! ## Statements and blocks -/

mutual

/-- **Statements run like what they stand for.** -/
theorem executeBlock_expanded (statement : Statement) :
    executeBlock setup statement.expanded = execute setup statement := by
  cases statement with
  | branch guard body elseIfs elseBody =>
      rw [Statement.expanded, executeBlock_singleton, execute_unchained, execute, execute,
        executeBlock_blockExpanded body, executeFirst_guardedExpanded condition elseIfs,
        executeOptional_optionalExpanded elseBody]
  | loop init guard update body =>
      rw [Statement.expanded, executeBlock_singleton, execute, execute,
        executeBlock_blockExpanded init, executeBlock_blockExpanded update,
        executeBlock_blockExpanded body]
  | switch subject cases default =>
      rw [Statement.expanded, executeBlock_singleton, execute_unchained, execute_compared,
        execute, execute, executeOptional_optionalExpanded default]
      simp only [executeFirst_guardedExpanded _ cases]
  | strictTiming body =>
      rw [Statement.expanded, execute, executeBlock_blockExpanded body]
  -- Every other statement stands for itself.
  | _ => exact executeBlock_singleton _

theorem executeBlock_blockExpanded : (block : List Statement) →
    executeBlock setup (Statement.blockExpanded block) = executeBlock setup block
  | [] => by rw [Statement.blockExpanded]
  | first :: rest => by
      rw [Statement.blockExpanded, executeBlock_append, executeBlock,
        executeBlock_expanded first, executeBlock_blockExpanded rest]

theorem executeFirst_guardedExpanded (test : Expression → Run Bool) :
    (guarded : List (Expression × List Statement)) →
      executeFirst setup test (Statement.guardedExpanded guarded) = executeFirst setup test guarded
  | [] => by rw [Statement.guardedExpanded]
  | (guard, body) :: rest => by
      rw [Statement.guardedExpanded, executeFirst, executeFirst, executeBlock_blockExpanded body,
        executeFirst_guardedExpanded test rest]

theorem executeOptional_optionalExpanded : (body : Option (List Statement)) →
    executeOptional setup (Statement.optionalExpanded body) = executeOptional setup body
  | none => by rw [Statement.optionalExpanded]
  | some body => by
      rw [Statement.optionalExpanded, executeOptional, executeOptional,
        executeBlock_blockExpanded body]

end

end Run

/-! ## Programs -/

/-- **Derived statements mean what they stand for.** The expansion of a program, in which nothing is
    left that stands for something else, runs like the program, whether it succeeds or fails. -/
theorem expansions_run_alike (program : Program) (setup : Setup) :
    program.expanded.run setup = program.run setup
      ∧ Statement.PlainBlock program.expanded.body := by
  have hbody : Run.executeBlock setup program.expanded.body
      = Run.executeBlock setup program.body := Run.executeBlock_blockExpanded program.body
  have hinitial : program.expanded.initialState = program.initialState := rfl
  refine ⟨?_, Statement.plainBlock_blockExpanded program.body⟩
  rw [Program.run, Program.run, hinitial, hbody]

end PulseTimeline
