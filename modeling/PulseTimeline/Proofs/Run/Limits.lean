import PulseTimeline.Proofs.Computation
import PulseTimeline.Run.Execute

set_option autoImplicit false

/-! # Limits only ever refuse

The limits of the settings are looked at in two places, where a pulse is about to be played and
where a loop is about to begin another round, and what they do there is to stop the run. A run that
no limit stops is therefore the run under any wider limits, step by step. The relation that carries
this through the statements is `AgreesUnless`: two computations end alike from every state from
which the first one is not stopped. -/

namespace PulseTimeline

/-! ## Computations that agree unless one is stopped -/

section

variable {ε σ α β : Type} {P : ε → Prop}

/-- From every state the second computation ends like the first one, unless the first one fails
    with an error of a kind. -/
def AgreesUnless (P : ε → Prop) (x y : EStateM ε σ α) : Prop :=
  ∀ s, (∃ e t, x.run s = .error e t ∧ P e) ∨ y.run s = x.run s

theorem agreesUnless_refl (x : EStateM ε σ α) : AgreesUnless P x x := fun _ => Or.inr rfl

theorem agreesUnless_throw {e : ε} (h : P e) (y : EStateM ε σ α) :
    AgreesUnless P (throw e) y := fun s => Or.inl ⟨e, s, rfl, h⟩

theorem agreesUnless_bind {x y : EStateM ε σ α} {f g : α → EStateM ε σ β}
    (hx : AgreesUnless P x y) (hf : ∀ a, AgreesUnless P (f a) (g a)) :
    AgreesUnless P (x >>= f) (y >>= g) := by
  intro s
  rcases hx s with ⟨e, t, hrun, he⟩ | hsame
  · exact Or.inl ⟨e, t, run_bind_eq_error.2 (Or.inl hrun), he⟩
  · rw [EStateM.run_bind, EStateM.run_bind, hsame]
    cases hrun : x.run s with
    | ok a t => exact hf a t
    | error e t => exact Or.inr rfl

theorem agreesUnless_ite {c : Prop} [Decidable c] {x y x' y' : EStateM ε σ α}
    (hx : AgreesUnless P x x') (hy : AgreesUnless P y y') :
    AgreesUnless P (if c then x else y) (if c then x' else y') := by
  split
  · exact hx
  · exact hy

end

/-! ## Wider limits -/

/-- The setup with other limits. -/
def Setup.withLimits (setup : Setup) (loops pulses : Nat) : Setup :=
  { setup with
    settings :=
      { setup.settings with maxLoopIterations := loops, maxPulseSamples := pulses } }

/-- The error says that a limit has been exceeded. -/
def RunError.IsLimit : RunError → Prop
  | pulseTooLong _ _ => True
  | iterationLimitExceeded _ => True
  | _ => False

namespace Run

variable {setup : Setup} {loops pulses : Nat}

open RunError (IsLimit)

/-- More rounds are only ever needed where fewer rounds have not been enough. -/
theorem agreesUnless_repeatWhile {limit limit' : Nat} {condition : Run Bool} {body body' : Run Unit}
    (hbody : AgreesUnless IsLimit body body') {remaining remaining' : Nat}
    (hle : remaining ≤ remaining') :
    AgreesUnless IsLimit (repeatWhile limit condition body remaining)
      (repeatWhile limit' condition body' remaining') := by
  induction remaining generalizing remaining' with
  | zero =>
      -- The first loop is stopped if its condition still holds, and both are over otherwise.
      cases remaining' <;>
        exact agreesUnless_bind (agreesUnless_refl condition) fun _ =>
          agreesUnless_ite (agreesUnless_throw trivial _) (agreesUnless_refl _)
  | succ remaining ih =>
      obtain ⟨more, rfl⟩ : ∃ more, remaining' = more + 1 := ⟨remaining' - 1, by omega⟩
      have hmore : remaining ≤ more := by omega
      refine agreesUnless_bind (agreesUnless_refl condition) fun holds => ?_
      refine agreesUnless_ite ?_ (agreesUnless_refl _)
      exact agreesUnless_bind hbody fun _ => ih hmore

section

variable (hpulses : setup.settings.maxPulseSamples ≤ pulses)

include hpulses

theorem agreesUnless_checkPulseLength (samples : Nat) :
    AgreesUnless IsLimit (liftOutcome (checkPulseLength setup samples) : Run Unit)
      (liftOutcome (checkPulseLength (setup.withLimits loops pulses) samples)) := by
  by_cases hlong : setup.settings.maxPulseSamples < samples
  · rw [checkPulseLength, if_pos hlong]
    exact agreesUnless_throw trivial _
  · have hshort : ¬ (setup.withLimits loops pulses).settings.maxPulseSamples < samples := by
      show ¬ pulses < samples
      omega
    rw [checkPulseLength, checkPulseLength, if_neg hlong, if_neg hshort]
    exact agreesUnless_refl _

theorem agreesUnless_playSamples (element operation : String) (samples : Samples) :
    AgreesUnless IsLimit (playSamples setup element operation samples)
      (playSamples (setup.withLimits loops pulses) element operation samples) := by
  refine agreesUnless_bind (agreesUnless_refl _) fun timeline => ?_
  refine agreesUnless_ite (agreesUnless_refl _) ?_
  refine agreesUnless_bind (agreesUnless_checkPulseLength hpulses samples.count) fun _ => ?_
  exact agreesUnless_refl _

theorem agreesUnless_playDuration (length : Option Expression) :
    AgreesUnless IsLimit (playDuration setup length)
      (playDuration (setup.withLimits loops pulses) length) := by
  cases length with
  | none => exact agreesUnless_refl _
  | some expression =>
      refine agreesUnless_bind (agreesUnless_refl (duration setup expression)) fun samples => ?_
      refine agreesUnless_bind (agreesUnless_checkPulseLength hpulses samples) fun _ => ?_
      exact agreesUnless_refl _

theorem agreesUnless_play (pulse : Pulse) (element : String)
    (amplitude length : Option Expression) :
    AgreesUnless IsLimit (play setup pulse element amplitude length)
      (play (setup.withLimits loops pulses) pulse element amplitude length) := by
  refine agreesUnless_bind (agreesUnless_playDuration hpulses length) fun duration => ?_
  refine agreesUnless_bind (agreesUnless_refl (playAmplitude amplitude)) fun factor => ?_
  refine agreesUnless_bind (agreesUnless_refl _) fun samples => ?_
  exact agreesUnless_playSamples hpulses element pulse.name samples

theorem agreesUnless_measure (element : String) (operation : Option String) :
    AgreesUnless IsLimit (measure setup element operation)
      (measure (setup.withLimits loops pulses) element operation) := by
  cases operation with
  | none => exact agreesUnless_refl _
  | some name =>
      refine agreesUnless_bind (agreesUnless_refl _) fun samples => ?_
      refine agreesUnless_bind (agreesUnless_playSamples hpulses element name samples) fun _ => ?_
      exact agreesUnless_refl _

end

/-! ## Statements and blocks -/

mutual

theorem agreesUnless_execute (hloops : setup.settings.maxLoopIterations ≤ loops)
    (hpulses : setup.settings.maxPulseSamples ≤ pulses) (statement : Statement) :
    AgreesUnless IsLimit (execute setup statement)
      (execute (setup.withLimits loops pulses) statement) := by
  cases statement with
  | play pulse element amplitude length =>
      rw [execute, execute]
      exact agreesUnless_play hpulses pulse element amplitude length
  | measure element operation =>
      rw [execute, execute]
      exact agreesUnless_measure hpulses element operation
  | branch guard body elseIfs elseBody =>
      rw [execute, execute]
      refine agreesUnless_bind (agreesUnless_refl (condition guard)) fun holds => ?_
      refine agreesUnless_ite (agreesUnless_executeBlock hloops hpulses body) ?_
      refine agreesUnless_bind (agreesUnless_executeFirst hloops hpulses condition elseIfs) ?_
      intro found
      exact agreesUnless_ite (agreesUnless_refl _)
        (agreesUnless_executeOptional hloops hpulses elseBody)
  | loop init guard update body =>
      rw [execute, execute]
      refine agreesUnless_bind (agreesUnless_executeBlock hloops hpulses init) fun _ => ?_
      refine agreesUnless_repeatWhile ?_ hloops
      exact agreesUnless_bind (agreesUnless_executeBlock hloops hpulses body) fun _ =>
        agreesUnless_executeBlock hloops hpulses update
  | switch subject cases default =>
      rw [execute, execute]
      refine agreesUnless_bind (agreesUnless_refl (value subject)) fun v => ?_
      refine agreesUnless_bind
        (agreesUnless_executeFirst hloops hpulses (matchesCase v) cases) fun found => ?_
      exact agreesUnless_ite (agreesUnless_refl _)
        (agreesUnless_executeOptional hloops hpulses default)
  | strictTiming body =>
      rw [execute, execute]
      exact agreesUnless_executeBlock hloops hpulses body
  -- No other statement looks at a limit.
  | _ => exact agreesUnless_refl _

/-- **Blocks under wider limits.** A block that no limit stops does the same under wider ones. -/
theorem agreesUnless_executeBlock (hloops : setup.settings.maxLoopIterations ≤ loops)
    (hpulses : setup.settings.maxPulseSamples ≤ pulses) : (block : List Statement) →
    AgreesUnless IsLimit (executeBlock setup block)
      (executeBlock (setup.withLimits loops pulses) block)
  | [] => agreesUnless_refl _
  | first :: rest => by
      rw [executeBlock, executeBlock]
      exact agreesUnless_bind (agreesUnless_execute hloops hpulses first) fun _ =>
        agreesUnless_executeBlock hloops hpulses rest

theorem agreesUnless_executeFirst (hloops : setup.settings.maxLoopIterations ≤ loops)
    (hpulses : setup.settings.maxPulseSamples ≤ pulses) (test : Expression → Run Bool) :
    (cases : List (Expression × List Statement)) →
      AgreesUnless IsLimit (executeFirst setup test cases)
        (executeFirst (setup.withLimits loops pulses) test cases)
  | [] => agreesUnless_refl _
  | (guard, body) :: rest => by
      rw [executeFirst, executeFirst]
      refine agreesUnless_bind (agreesUnless_refl (test guard)) fun passes => ?_
      refine agreesUnless_ite ?_ (agreesUnless_executeFirst hloops hpulses test rest)
      exact agreesUnless_bind (agreesUnless_executeBlock hloops hpulses body) fun _ =>
        agreesUnless_refl _

theorem agreesUnless_executeOptional (hloops : setup.settings.maxLoopIterations ≤ loops)
    (hpulses : setup.settings.maxPulseSamples ≤ pulses) : (body : Option (List Statement)) →
    AgreesUnless IsLimit (executeOptional setup body)
      (executeOptional (setup.withLimits loops pulses) body)
  | none => agreesUnless_refl _
  | some body => by
      rw [executeOptional, executeOptional]
      exact agreesUnless_executeBlock hloops hpulses body

end

end Run

/-! ## Programs -/

/-- Where all bodies end alike, so do the programs. -/
theorem Program.run_congr {program : Program} {setup other : Setup} {state : RunState}
    (hinitial : program.initialState = .ok state)
    (h : (Run.executeBlock other program.body).run state
      = (Run.executeBlock setup program.body).run state) :
    program.run other = program.run setup := by
  have hsame : Run.executeBlock other program.body state
      = Run.executeBlock setup program.body state := h
  simp only [run, hinitial, bind, Except.bind, hsame]

theorem Program.run_eq_error {program : Program} {setup : Setup} {state last : RunState}
    {e : RunError} (hinitial : program.initialState = .ok state)
    (h : (Run.executeBlock setup program.body).run state = .error e last) :
    program.run setup = .error e := by
  have hfailed : Run.executeBlock setup program.body state = .error e last := h
  simp only [run, hinitial, bind, Except.bind, hfailed]

/-- **Limits only ever refuse.** A run that does not end because of a limit ends alike under wider
    limits, whether it succeeds or fails. -/
theorem limits_only_refuse (program : Program) (setup : Setup) (loops pulses : Nat)
    (hloops : setup.settings.maxLoopIterations ≤ loops)
    (hpulses : setup.settings.maxPulseSamples ≤ pulses)
    (hnot : ∀ e, program.run setup = .error e → ¬ e.IsLimit) :
    program.run (setup.withLimits loops pulses) = program.run setup := by
  cases hinitial : program.initialState with
  | error e => simp only [Program.run, hinitial, bind, Except.bind]
  | ok state =>
      rcases Run.agreesUnless_executeBlock hloops hpulses program.body state with
        ⟨e, last, hstopped, hlimit⟩ | hsame
      · exact absurd hlimit (hnot e (Program.run_eq_error hinitial hstopped))
      · exact Program.run_congr hinitial hsame

/-- A loop of two rounds, with a wait of twelve samples in each, is within a limit of two rounds,
    and does the same under a limit of five. -/
theorem same_run_under_wider_limits :
    let index : Expression := .reference "i"
    let next : Statement :=
      .assign (.reference "i") (.binary index .add (.literal "1" (some .int)))
    let guard : Expression := .binary index .lessThan (.literal "2" (some .int))
    let waiting : Statement := .wait (.literal "3" (some .int)) ["qe1"]
    let program : Program := ⟨[.loop [] guard [next] [waiting]], [.scalar "i" .int (.int 0)]⟩
    let setup : Setup :=
      ⟨⟨.ofList [("qe1", ⟨none, none, .empty, none⟩)], .empty, .empty⟩, .empty, ⟨4, 2, 8⟩⟩
    ∃ outcome, program.run setup = .ok outcome
      ∧ program.run (setup.withLimits 5 16) = .ok outcome
      ∧ (outcome.timelines.find? "qe1").map Timeline.cursor = some 24 := by
  intro index next guard waiting program setup
  have hcursor : (program.run setup).toOption.map
      (fun outcome => (outcome.timelines.find? "qe1").map Timeline.cursor) = some (some 24) := by
    decide +kernel
  cases hrun : program.run setup with
  | error e =>
      rw [hrun] at hcursor
      cases hcursor
  | ok outcome =>
      have hnot : ∀ e, program.run setup = .error e → ¬ e.IsLimit := by
        intro e he
        rw [hrun] at he
        cases he
      have hwider := limits_only_refuse program setup 5 16 (by decide) (by decide) hnot
      rw [hrun] at hcursor
      exact ⟨outcome, rfl, hwider.trans hrun, Option.some.inj hcursor⟩

end PulseTimeline
