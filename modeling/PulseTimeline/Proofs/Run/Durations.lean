import PulseTimeline.Proofs.Run.Playing
import PulseTimeline.Proofs.Run.StaticTypes
import PulseTimeline.Proofs.Statement.Effects

set_option autoImplicit false

/-! # Durations

Durations are given in clock cycles and used in samples. How many samples a clock cycle has is for
the settings to say, where it may be any integer, zero and negative ones included. A duration is the
mathematical product of both or refused, and a statement that has one evaluates it before anything
else. So a refused duration is the error of its statement, and one that is not refused is what the
cursors of the elements move on by. -/

namespace PulseTimeline

/-! ## Statements with durations -/

namespace Statement

/-- The duration that a statement gives. -/
def duration? : Statement → Option Expression
  | play _ _ _ length => length
  | rampToZero _ length => length
  | wait length _ => some length
  | _ => none

/-- The elements that a statement keeps busy, given those that have been touched. A wait that names
    no element is one for all of these. -/
def busy (touched : List String) : Statement → List String
  | wait _ elements => if elements.isEmpty then touched else elements
  | statement => statement.elements

end Statement

/-! ## Cursors -/

namespace Timeline

/-- Calls that begin no segment add up. -/
theorem cursor_of_times {call : Call} (hcall : call ≠ .restart) {count : Nat}
    {timeline later : Timeline} (h : (call.edit.times count).run timeline = .ok () later) :
    later.cursor = timeline.cursor + count * call.samples := by
  induction count generalizing timeline with
  | zero =>
      obtain ⟨-, rfl⟩ := run_pure_eq_ok.1 h
      rw [Nat.zero_mul, Nat.add_zero]
  | succ count ih =>
      obtain ⟨u, changed, hfirst, hrest⟩ := run_bind_eq_ok.1 h
      obtain ⟨-, rfl⟩ := (run_edit_eq_ok_iff timeline changed call u).1 hfirst
      have hcursor : (call.result timeline).cursor = timeline.cursor + call.samples := by
        cases call with
        | restart => exact absurd rfl hcall
        | _ => rfl
      rw [ih hrest, hcursor, Nat.succ_mul]
      omega

end Timeline

namespace Store

variable {hardware : Hardware} {channel : String}

theorem editAll_singleton {change : Timeline.Edit} :
    editAll hardware change [channel] = edit hardware channel change := by
  rw [editAll, editAll]
  exact bind_pure _

/-- Every element that is named moves on, as often as it is named. -/
theorem cursor_of_editAll {store next : Store} {call : Timeline.Call} (hcall : call ≠ .restart)
    {names : List String}
    (h : (editAll hardware call.edit names).run store = .ok () next) (hnamed : channel ∈ names) :
    ∃ timeline later, store.timeline? hardware channel = some timeline
      ∧ next.find? channel = some later
      ∧ later.cursor = timeline.cursor + names.count channel * call.samples := by
  obtain ⟨timeline, later, hfound, htimes, hlater⟩ := find?_editAll_of_mem h hnamed
  exact ⟨timeline, later, hfound, hlater, Timeline.cursor_of_times hcall htimes⟩

end Store

namespace Run

variable {setup : Setup} {statement : Statement} {expression : Expression}
  {state drawn next : RunState}

/-! ## Refused durations -/

/-- The value of a duration is refused: it is no integer, or negative, or its number of samples is
    negative or too large. -/
inductive RefusedDuration (clock : Int64) (expression : Expression) : Value → RunError → Prop where
  | notInteger {v : Value} (h : v.type ≠ .int) :
    RefusedDuration clock expression v (.expectedInteger expression.text v.type)
  | negative {cycles : Int64} (h : cycles.toInt < 0) :
    RefusedDuration clock expression (.int cycles) (.negativeDuration cycles)
  | overflow {cycles : Int64} (h : 0 ≤ cycles.toInt)
    (hsamples : cycles.toInt * clock.toInt < 0 ∨ 2 ^ 63 ≤ cycles.toInt * clock.toInt) :
    RefusedDuration clock expression (.int cycles) (.durationOverflow cycles)

theorem samplesOfCycles_eq_error_iff {clock cycles : Int64} {error : RunError} :
    samplesOfCycles clock cycles = .error error
      ↔ RefusedDuration clock expression (.int cycles) error := by
  rw [samplesOfCycles_eq]
  constructor
  · intro h
    split at h
    · next hnegative =>
        cases h
        exact .negative hnegative
    · next hcycles =>
        split at h
        · cases h
        · next hunfit =>
            cases h
            exact .overflow (Int.not_lt.1 hcycles) (by omega)
  · intro h
    cases h with
    | notInteger h => exact absurd rfl h
    | negative h => rw [if_pos h]
    | overflow h hsamples => rw [if_neg (Int.not_lt.2 h), if_neg (by omega)]

/-- A duration fails as its expression does, or because the value is refused. -/
theorem run_duration_eq_error_iff {error : RunError} :
    (duration setup expression).run state = .error error next
      ↔ (value expression).run state = .error error next
        ∨ ∃ v, (value expression).run state = .ok v next
          ∧ RefusedDuration setup.settings.clockCycleSamples expression v error := by
  simp only [duration, integer, run_bind_eq_ok, run_bind_eq_error, run_liftOutcome_eq_ok,
    run_liftOutcome_eq_error, expectInteger_eq_ok_iff, expectInteger_eq_error_iff]
  constructor
  · rintro ((hvalue | ⟨v, drawn, hvalue, ⟨htype, rfl⟩, rfl⟩)
      | ⟨cycles, drawn, ⟨v, drawn', hvalue, rfl, rfl⟩, hrefused, rfl⟩)
    · exact Or.inl hvalue
    · exact Or.inr ⟨v, hvalue, .notInteger htype⟩
    · exact Or.inr ⟨_, hvalue, samplesOfCycles_eq_error_iff.1 hrefused⟩
  · rintro (hvalue | ⟨v, hvalue, hrefused⟩)
    · exact Or.inl (Or.inl hvalue)
    · by_cases htype : v.type = .int
      · -- Only an integer has this type, and it is the clock that refuses it.
        cases v with
        | int cycles =>
            have hcycles := samplesOfCycles_eq_error_iff.2 hrefused
            exact Or.inr ⟨cycles, next, ⟨_, next, hvalue, rfl, rfl⟩, hcycles, rfl⟩
        | bool | real => cases htype
      · cases hrefused with
        | notInteger h => exact Or.inl (Or.inr ⟨v, next, hvalue, ⟨h, rfl⟩, rfl⟩)
        | negative | overflow => exact absurd rfl htype

/-! ## Used durations -/

/-- A statement evaluates its duration before anything else. -/
theorem exists_execute_eq_bind (setup : Setup) (h : statement.duration? = some expression) :
    ∃ rest : Nat → Run Unit,
      execute setup statement = (do rest (← duration setup expression)) := by
  cases statement with
  | play pulse element amplitude length =>
      obtain rfl : length = some expression := h
      refine ⟨fun n => do
        liftOutcome (checkPulseLength setup n)
        let factor ← playAmplitude amplitude
        let samples ← pulseSamples setup element (some n) factor pulse
        playSamples setup element pulse.name samples, ?_⟩
      simp only [execute, play, playDuration, bind_assoc, pure_bind]
  | rampToZero element length =>
      obtain rfl : length = some expression := h
      refine ⟨fun n => onTimelines (Store.edit setup.hardware element (Timeline.rampToZero n)), ?_⟩
      simp only [execute, rampToZeroDuration]
  | wait length elements =>
      obtain rfl : length = expression := Option.some.inj h
      refine ⟨fun n => do
        let state ← get
        let names := if elements.isEmpty then state.timelines.channels else elements
        onTimelines (Store.editAll setup.hardware (Timeline.delay n) names), ?_⟩
      simp only [execute, wait]
  | _ => cases h

/-- A play takes as many samples as its duration has. -/
theorem cursor_of_run_play {pulse : Pulse} {element : String} {amplitude : Option Expression}
    {n : Nat} (hduration : (duration setup expression).run state = .ok n drawn)
    (hrun : (execute setup (.play pulse element amplitude (some expression))).run state
      = .ok () next) :
    ∃ timeline later, state.timelines.timeline? setup.hardware element = some timeline
      ∧ next.timelines.find? element = some later ∧ later.cursor = timeline.cursor + n := by
  obtain ⟨evaluated, samples, hdrawn, ⟨cycles, last, hvalue, hcount⟩, hplayed⟩ :=
    run_play_eq_ok hrun
  obtain ⟨timeline, hfound, -, -, rfl⟩ := run_playSamples_eq_ok hplayed
  obtain ⟨cycles', hvalue', -, hn, -⟩ := run_duration_eq_ok_iff.1 hduration
  cases hvalue.symm.trans hvalue'
  have htimelines : evaluated.timelines = state.timelines := by rw [hdrawn]
  have hsamples : samples.count = n := Int.ofNat.inj (hcount.trans hn.symm)
  refine ⟨timeline, _, htimelines ▸ hfound, Store.find?_put_self .., ?_⟩
  show timeline.cursor + samples.quadratures.1.length = timeline.cursor + n
  rw [samples.length_quadratures_fst, hsamples]

/-- The elements that a statement keeps busy move on by its duration, as often as it names them. -/
theorem cursor_of_duration {n : Nat} (hsome : statement.duration? = some expression)
    (hduration : (duration setup expression).run state = .ok n drawn)
    (hrun : (execute setup statement).run state = .ok () next) {channel : String}
    (hbusy : channel ∈ statement.busy state.timelines.channels) :
    ∃ timeline later, state.timelines.timeline? setup.hardware channel = some timeline
      ∧ next.timelines.find? channel = some later
      ∧ later.cursor
        = timeline.cursor + (statement.busy state.timelines.channels).count channel * n := by
  have hdrawn : drawn.timelines = state.timelines := by
    rw [onlyDrawn_of_run (stepwise_duration (value_onlyDrawn expression)) hduration]
  cases statement with
  | play pulse element amplitude length =>
      obtain rfl : length = some expression := hsome
      obtain rfl : channel = element := List.mem_singleton.1 hbusy
      have honce : (Statement.play pulse channel amplitude (some expression)).busy
          state.timelines.channels = [channel] := rfl
      rw [honce, List.count_singleton_self, Nat.one_mul]
      exact cursor_of_run_play hduration hrun
  | rampToZero element length =>
      obtain rfl : length = some expression := hsome
      obtain ⟨n', drawn', hduration', hramp⟩ := run_bind_eq_ok.1 hrun
      cases hduration.symm.trans hduration'
      obtain ⟨timelines, hedit, rfl⟩ := run_onTimelines_eq_ok_iff.1 hramp
      rw [hdrawn, ← Store.editAll_singleton] at hedit
      have hcall : Timeline.Call.rampToZero n ≠ .restart := nofun
      exact Store.cursor_of_editAll hcall hedit hbusy
  | wait length elements =>
      obtain rfl : length = expression := Option.some.inj hsome
      rw [execute] at hrun
      obtain ⟨n', drawn', hduration', hwait⟩ := run_bind_eq_ok.1 hrun
      cases hduration.symm.trans hduration'
      obtain ⟨seen, seen', hget, hdelayed⟩ := run_bind_eq_ok.1 hwait
      cases hget
      obtain ⟨timelines, hedits, rfl⟩ := run_onTimelines_eq_ok_iff.1 hdelayed
      rw [hdrawn] at hedits
      have hcall : Timeline.Call.delay n ≠ .restart := nofun
      exact Store.cursor_of_editAll hcall hedits hbusy
  | _ => cases hsome

/-- **Durations are exact or refused.** However many samples a clock cycle has, a statement uses a
    duration only if its expression evaluates to a number of cycles that is not negative and whose
    product with the clock is in range, and it uses exactly this product. Any other value is the
    error of the statement: as no integer, as a negative duration, or as an overflow. -/
theorem durations_are_exact_or_refused (setup : Setup) (state : RunState)
    (hsome : statement.duration? = some expression) :
    let clock := setup.settings.clockCycleSamples
    (∀ n drawn, (duration setup expression).run state = .ok n drawn
      ↔ ∃ cycles, (value expression).run state = .ok (.int cycles) drawn ∧ 0 ≤ cycles.toInt
        ∧ n = cycles.toInt * clock.toInt ∧ n < 2 ^ 63)
    ∧ (∀ error drawn, (duration setup expression).run state = .error error drawn
      ↔ (value expression).run state = .error error drawn
        ∨ ∃ v, (value expression).run state = .ok v drawn
          ∧ RefusedDuration clock expression v error)
    ∧ (∀ error drawn, (duration setup expression).run state = .error error drawn →
      (execute setup statement).run state = .error error drawn)
    ∧ ∀ next, (execute setup statement).run state = .ok () next →
      ∃ n drawn, (duration setup expression).run state = .ok n drawn
        ∧ ∀ channel ∈ statement.busy state.timelines.channels, ∃ timeline later,
          state.timelines.timeline? setup.hardware channel = some timeline
            ∧ next.timelines.find? channel = some later
            ∧ later.cursor
              = timeline.cursor + (statement.busy state.timelines.channels).count channel * n := by
  intro clock
  obtain ⟨rest, hrest⟩ := exists_execute_eq_bind setup hsome
  refine ⟨fun n drawn => run_duration_eq_ok_iff, fun error drawn => run_duration_eq_error_iff,
    fun error drawn hrefused => ?_, fun next hrun => ?_⟩
  · rw [hrest]
    exact run_bind_eq_error.2 (Or.inl hrefused)
  · have hbind := hrun
    rw [hrest] at hbind
    obtain ⟨n, drawn, hduration, -⟩ := run_bind_eq_ok.1 hbind
    refine ⟨n, drawn, hduration, fun channel hbusy => ?_⟩
    exact cursor_of_duration hsome hduration hrun hbusy

/-- A machine whose clock cycles have as many samples. -/
def clocked (clock : Int64) : Setup :=
  { shortPulses with settings := { Settings.standard with clockCycleSamples := clock } }

/-- With a clock that goes backwards, no cycles are no samples and one cycle is an overflow. With
    two samples a cycle, the longest duration has two samples less than two to the power of
    sixty-three. Negative and logical durations are refused whatever the clock. -/
theorem durations_at_the_bounds :
    let state : RunState := ⟨.empty, .empty, .empty, .empty⟩
    let waiting (cycles : String) : Statement := .wait (.literal cycles none) ["q1"]
    let ramping (cycles : String) : Statement := .rampToZero "q1" (some (.literal cycles none))
    (∃ next later, (execute (clocked (-4)) (waiting "0")).run state = .ok () next
      ∧ next.timelines.find? "q1" = some later ∧ later.cursor = 0)
    ∧ (execute (clocked (-4)) (ramping "1")).run state = .error (.durationOverflow 1) state
    ∧ (∃ next later, (execute (clocked 2) (waiting "4611686018427387903")).run state = .ok () next
      ∧ next.timelines.find? "q1" = some later ∧ later.cursor = 2 ^ 63 - 2)
    ∧ (execute (clocked 2) (ramping "4611686018427387904")).run state
      = .error (.durationOverflow 4611686018427387904) state
    ∧ (execute (clocked 2) (waiting "-1")).run state = .error (.negativeDuration (-1)) state
    ∧ (execute (clocked 2) (ramping "true")).run state
      = .error (.expectedInteger "true" .bool) state := by
  intro state waiting ramping
  have hrefused : ∀ {clock : Int64} {statement : Statement} {e : Expression} {v : Value}
      {error : RunError}, statement.duration? = some e → (value e).run state = .ok v state →
        RefusedDuration clock e v error →
          (execute (clocked clock) statement).run state = .error error state := by
    intro clock statement e v error hsome hvalue hrefused
    obtain ⟨-, herror, hstatement, -⟩ :=
      durations_are_exact_or_refused (clocked clock) state hsome
    exact hstatement error state ((herror error state).2 (Or.inr ⟨v, hvalue, hrefused⟩))
  have hused : ∀ {clock cycles : Int64} {text : String} {n : Nat},
      (value (.literal text none)).run state = .ok (.int cycles) state →
        (n : Int) = cycles.toInt * clock.toInt →
        (stateIfOk? (execute (clocked clock) (waiting text)) state).isSome →
          ∃ next later, (execute (clocked clock) (waiting text)).run state = .ok () next
            ∧ next.timelines.find? "q1" = some later ∧ later.cursor = n := by
    intro clock cycles text n hvalue hn hends
    obtain ⟨next, hnext⟩ := Option.isSome_iff_exists.1 hends
    obtain ⟨u, hrun⟩ := stateIfOk?_eq_some_iff.1 hnext
    have hsome : (waiting text).duration? = some (.literal text none) := rfl
    obtain ⟨hexact, -, -, hcursor⟩ := durations_are_exact_or_refused (clocked clock) state hsome
    obtain ⟨used, drawn, hduration, hbusy⟩ := hcursor next hrun
    obtain ⟨cycles', hvalue', -, hproduct, -⟩ := (hexact used drawn).1 hduration
    cases hvalue.symm.trans hvalue'
    obtain rfl : used = n := Int.ofNat.inj (hproduct.trans hn.symm)
    obtain ⟨timeline, later, hfound, hlater, hmoved⟩ := hbusy "q1" (List.mem_singleton.2 rfl)
    -- The element has not been touched before, so it begins at zero.
    cases (show state.timelines.timeline? (clocked clock).hardware "q1"
      = some (Timeline.new "q1" .iq) from rfl).symm.trans hfound
    have honce : (waiting text).busy state.timelines.channels = ["q1"] := rfl
    have hzero : (Timeline.new "q1" .iq).cursor = 0 := rfl
    rw [honce, List.count_singleton_self, Nat.one_mul, hzero, Nat.zero_add] at hmoved
    exact ⟨next, later, hrun, hlater, hmoved⟩
  refine ⟨hused rfl (by decide) (by decide +kernel), ?_, hused rfl (by decide) (by decide +kernel),
    ?_, ?_, ?_⟩
  · exact hrefused rfl rfl (.overflow (by decide) (by decide))
  · exact hrefused rfl rfl (.overflow (by decide) (by decide))
  · exact hrefused rfl rfl (.negative (by decide))
  · exact hrefused rfl rfl (.notInteger (by decide))

end Run

end PulseTimeline
