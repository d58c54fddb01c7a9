import PulseTimeline.Proofs.Run.Conformance
import PulseTimeline.Proofs.Waveform.Resolution

set_option autoImplicit false

/-! # What a play statement does

A play statement first evaluates, which draws random numbers at most, and then adds one pulse to the
timeline of its element. How many samples the pulse has is settled on the way there: by the duration
of the statement, or by the configuration where it gives none. -/

namespace PulseTimeline

namespace Run

variable {setup : Setup} {state next : RunState} {element operation : String}

/-! ## Evaluating first -/

/-- Two states that differ in the random generators at most. -/
def OnlyDrawn (state next : RunState) : Prop := next = { state with random := next.random }

theorem value_onlyDrawn (expression : Expression) : Stepwise OnlyDrawn (value expression) := by
  intro state
  rw [stateAfter_value]
  exact .single rfl

/-- A computation that only draws has only drawn where it succeeds. -/
theorem onlyDrawn_of_run {α : Type} {x : Run α} {a : α} (hx : Stepwise OnlyDrawn x)
    (h : x.run state = .ok a next) : OnlyDrawn state next := by
  have hdrawn := hx.invariant (P := OnlyDrawn state) (s := state) ?_ rfl
  · rwa [stateAfter_of_ok h] at hdrawn
  · intro middle last hlast hmiddle
    rw [OnlyDrawn] at hlast hmiddle ⊢
    rw [hlast, hmiddle]

/-! ## Numbers of samples -/

/-- How many samples a play statement takes: as many as the clock cycles of its duration have, or,
    without a duration, as many as the pulse of its operation is configured with. -/
def PlaysFor (setup : Setup) (state : RunState) (element : String) (pulse : Pulse) :
    Option Expression → Nat → Prop
  | some duration, n => ∃ cycles drawn, (value duration).run state = .ok (.int cycles) drawn
    ∧ n = cycles.toInt * setup.settings.clockCycleSamples.toInt
  | none, n => ∃ operation, pulse = .named operation
    ∧ setup.hardware.pulseLength? element operation = some n

/-- The clock turns cycles into samples as the integers do, or refuses them. -/
theorem samplesOfCycles_eq (clock cycles : Int64) :
    samplesOfCycles clock cycles =
      if cycles.toInt < 0 then .error (.negativeDuration cycles)
      else if 0 ≤ cycles.toInt * clock.toInt ∧ cycles.toInt * clock.toInt < 2 ^ 63 then
        .ok (cycles.toInt * clock.toInt).toNat
      else .error (.durationOverflow cycles) := by
  have hsign : cycles < 0 ↔ cycles.toInt < 0 := by rw [Int64.lt_iff_toInt_lt, Int64.toInt_zero]
  simp only [samplesOfCycles, hsign, Int64.toInt_maxValue, Int.le_sub_one_iff]

theorem samplesOfCycles_eq_ok_iff {clock cycles : Int64} {n : Nat} :
    samplesOfCycles clock cycles = .ok n
      ↔ 0 ≤ cycles.toInt ∧ n = cycles.toInt * clock.toInt ∧ n < 2 ^ 63 := by
  rw [samplesOfCycles_eq]
  split
  · next hnegative => simp [Int.not_le.2 hnegative]
  · split
    · next hfits =>
        rw [Except.ok.injEq]
        omega
    · next hfits =>
        simp only [reduceCtorEq, false_iff]
        omega

theorem expectInteger_eq_ok_iff {expression : Expression} {v : Value} {n : Int64} :
    expectInteger expression v = .ok n ↔ v = .int n := by
  cases v <;> simp [expectInteger]

/-- A duration is exactly the product of the cycles and the clock, which is in range. -/
theorem run_duration_eq_ok_iff {expression : Expression} {n : Nat} :
    (duration setup expression).run state = .ok n next
      ↔ ∃ cycles, (value expression).run state = .ok (.int cycles) next ∧ 0 ≤ cycles.toInt
        ∧ n = cycles.toInt * setup.settings.clockCycleSamples.toInt ∧ n < 2 ^ 63 := by
  simp only [duration, integer, run_bind_eq_ok, run_liftOutcome_eq_ok, expectInteger_eq_ok_iff,
    samplesOfCycles_eq_ok_iff]
  constructor
  · rintro ⟨cycles, drawn, ⟨v, drawn', hvalue, rfl, rfl⟩, hsamples, rfl⟩
    exact ⟨cycles, hvalue, hsamples⟩
  · rintro ⟨cycles, hvalue, hsamples⟩
    exact ⟨cycles, next, ⟨_, next, hvalue, rfl, rfl⟩, hsamples, rfl⟩

theorem run_playDuration_eq_ok {length : Option Expression} {duration : Option Nat}
    (h : (playDuration setup length).run state = .ok duration next) :
    length = none ∧ duration = none
      ∨ ∃ expression n cycles drawn, length = some expression ∧ duration = some n
        ∧ (value expression).run state = .ok (.int cycles) drawn
        ∧ n = cycles.toInt * setup.settings.clockCycleSamples.toInt := by
  cases length with
  | none =>
      obtain ⟨rfl, -⟩ := run_pure_eq_ok.1 h
      exact Or.inl ⟨rfl, rfl⟩
  | some expression =>
      obtain ⟨n, middle, hduration, h⟩ := run_bind_eq_ok.1 h
      obtain ⟨u, middle', -, h⟩ := run_bind_eq_ok.1 h
      obtain ⟨rfl, -⟩ := run_pure_eq_ok.1 h
      obtain ⟨cycles, hvalue, -, hn, -⟩ := run_duration_eq_ok_iff.1 hduration
      exact Or.inr ⟨expression, n, cycles, middle, rfl, rfl, hvalue, hn⟩

/-- A ramp needs a duration; a named operation has its pulse to fall back on. -/
theorem run_pulseSamples_eq_ok {duration : Option Nat} {amplitude : Option Float} {pulse : Pulse}
    {samples : Samples}
    (h : (pulseSamples setup element duration amplitude pulse).run state = .ok samples next) :
    duration = some samples.count ∨ duration = none ∧ ∃ operation, pulse = .named operation
      ∧ setup.hardware.pulseLength? element operation = some samples.count := by
  cases pulse with
  | named operation =>
      obtain ⟨hresolve, -⟩ := run_liftOutcome_eq_ok.1 h
      obtain ⟨length, hlength, hcount⟩ :=
        Hardware.count_of_resolve (mapError_eq_ok.1 hresolve)
      rw [hcount]
      cases duration with
      | none => exact Or.inr ⟨rfl, operation, rfl, hlength⟩
      | some n => exact Or.inl rfl
  | ramp slope =>
      obtain ⟨v, middle, -, h⟩ := run_bind_eq_ok.1 h
      obtain ⟨hramp, -⟩ := run_liftOutcome_eq_ok.1 h
      exact Or.inl (Samples.count_of_ramp (mapError_eq_ok.1 hramp))

/-! ## Playing samples -/

theorem checkPulseLength_eq_ok_iff {n : Nat} :
    checkPulseLength setup n = .ok () ↔ n ≤ setup.settings.maxPulseSamples := by
  unfold checkPulseLength
  split
  · next h => simp [Nat.not_le.2 h]
  · next h => simp [Nat.not_lt.1 h]

/-- Samples are played on two quadratures only, within the limit, and while the timeline lasts. -/
theorem run_playSamples_eq_ok {samples : Samples}
    (h : (playSamples setup element operation samples).run state = .ok () next) :
    ∃ timeline, state.timelines.timeline? setup.hardware element = some timeline
      ∧ timeline.kind = .iq ∧ samples.count ≤ setup.settings.maxPulseSamples
      ∧ next = { state with
          timelines := state.timelines.put element ((Timeline.Call.playIq operation
            samples.quadratures.1 samples.quadratures.2).result timeline) } := by
  obtain ⟨timeline, demanded, htouched, h⟩ := run_bind_eq_ok.1 h
  obtain ⟨filed, hdemand, rfl⟩ := run_onTimelines_eq_ok_iff.1 htouched
  obtain ⟨hfound, rfl⟩ := Store.run_demand_eq_ok_iff.1 hdemand
  split at h
  · exact absurd h run_throw_ne_ok
  · next hkind =>
      obtain ⟨u, checked, hchecked, h⟩ := run_bind_eq_ok.1 h
      obtain ⟨hcheck, rfl⟩ := run_liftOutcome_eq_ok.1 hchecked
      obtain ⟨changed, hedit, rfl⟩ := run_onTimelines_eq_ok_iff.1 h
      -- The timeline that is demanded is the one that is changed.
      obtain ⟨other, result, hother, hplay, rfl⟩ := Store.run_edit_eq_ok_iff.1 hedit
      rw [Store.timeline?_put_self] at hother
      cases hother
      obtain ⟨-, rfl⟩ := (Timeline.run_edit_eq_ok_iff timeline _
        (.playIq operation samples.quadratures.1 samples.quadratures.2) ()).1 hplay
      refine ⟨timeline, hfound, not_not.1 hkind, checkPulseLength_eq_ok_iff.1 hcheck, ?_⟩
      rw [Store.put_put]

end Run

/-! ## The effect -/

/-- A timeline on which a pulse with as many samples has been played, and what has come of it: one
    instruction more for either signal, and nothing else. -/
structure Timeline.Plays (operation : String) (n : Nat) (timeline later : Timeline) : Prop where
  pulse : ∃ i q iSamples qSamples, timeline.current = .iq i q
    ∧ later.current = .iq (i ++ [.play operation iSamples]) (q ++ [.play operation qSamples])
    ∧ iSamples.length = n ∧ qSamples.length = n
  cursor : later.cursor = timeline.cursor + n
  closed : later.closed = timeline.closed
  phase : later.phase = timeline.phase
  channel : later.channel = timeline.channel
  kind : later.kind = timeline.kind

theorem Timeline.Sound.plays {timeline : Timeline} (h : timeline.Sound)
    (hkind : timeline.kind = .iq) (operation : String) (samples : Samples) :
    timeline.Plays operation samples.count
      ((Call.playIq operation samples.quadratures.1 samples.quadratures.2).result timeline) where
  pulse := by
    have hcurrent := h.current.kind_eq
    rw [hkind] at hcurrent
    cases hsegment : timeline.current with
    | single instructions =>
        rw [hsegment] at hcurrent
        cases hcurrent
    | iq i q =>
        refine ⟨i, q, samples.quadratures.1, samples.quadratures.2, rfl, ?_, ?_, ?_⟩
        · simp only [Call.result, Call.currentAfter, hsegment, Segment.pushPlay]
        · exact samples.length_quadratures_fst
        · exact samples.length_quadratures_snd
  cursor := by
    simp only [Call.result, Call.cursorAfter, Call.samples, samples.length_quadratures_fst]
  closed := rfl
  phase := rfl
  channel := rfl
  kind := rfl

/-- All timelines of a store are sound and belong to configured elements of their kinds. -/
def Store.Configured (hardware : Hardware) (store : Store) : Prop :=
  ∀ channel timeline, store.find? channel = some timeline → timeline.Sound
    ∧ ∃ element, hardware.element? channel = some element ∧ timeline.kind = element.kind

/-- So is the timeline that an element would begin with. -/
theorem Store.Configured.of_timeline? {hardware : Hardware} {store : Store}
    (h : store.Configured hardware) {channel : String} {timeline : Timeline}
    (hfound : store.timeline? hardware channel = some timeline) : timeline.Sound
      ∧ ∃ element, hardware.element? channel = some element ∧ timeline.kind = element.kind := by
  rcases timeline?_eq_some_iff.1 hfound with hold | ⟨-, element, helement, rfl⟩
  · exact h channel timeline hold
  · exact ⟨Timeline.sound_new channel element.kind, element, helement, rfl⟩

namespace Run

variable {setup : Setup} {state next : RunState} {pulse : Pulse} {element : String}
  {amplitude length : Option Expression}

/-- A play statement evaluates first and plays then. -/
theorem run_play_eq_ok (h : (execute setup (.play pulse element amplitude length)).run state
      = .ok () next) :
    ∃ evaluated samples, OnlyDrawn state evaluated
      ∧ PlaysFor setup state element pulse length samples.count
      ∧ (playSamples setup element pulse.name samples).run evaluated = .ok () next := by
  rw [execute] at h
  obtain ⟨duration, first, hduration, h⟩ := run_bind_eq_ok.1 h
  obtain ⟨factor, second, hfactor, h⟩ := run_bind_eq_ok.1 h
  obtain ⟨samples, third, hsamples, hplayed⟩ := run_bind_eq_ok.1 h
  refine ⟨third, samples, ?_, ?_, hplayed⟩
  · have hfirst := onlyDrawn_of_run (stepwise_playDuration fun e _ => value_onlyDrawn e) hduration
    have hsecond := onlyDrawn_of_run (stepwise_playAmplitude fun e _ => value_onlyDrawn e) hfactor
    have hthird := onlyDrawn_of_run
      (stepwise_pulseSamples element duration factor fun e _ => value_onlyDrawn e) hsamples
    rw [OnlyDrawn] at hfirst hsecond hthird ⊢
    rw [hthird, hsecond, hfirst]
  · rcases run_playDuration_eq_ok hduration with ⟨rfl, rfl⟩ | ⟨e, n, cycles, drawn, rfl, rfl, hn⟩
    · rcases run_pulseSamples_eq_ok hsamples with hcount | ⟨-, hnamed⟩
      · cases hcount
      · exact hnamed
    · rcases run_pulseSamples_eq_ok hsamples with hcount | ⟨hnone, -⟩
      · cases hcount
        exact ⟨cycles, drawn, hn⟩
      · cases hnone

/-- Wherever a run has come to, its timelines are sound and belong to configured elements. -/
theorem Reached.configured {first : RunState} (hfirst : first.timelines = .empty)
    (h : Reached {setup} first state) : state.timelines.Configured setup.hardware := by
  have hsound : state.timelines.Sound setup.hardware := by
    refine h.timelines (P := Store.Sound setup.hardware) ?_ ?_
    · intro other hother store later hstep hstore
      cases Set.mem_singleton_iff.1 hother
      exact hstore.step hstep
    · rw [hfirst]
      exact Store.sound_empty setup.hardware
  intro channel timeline hfound
  have htimeline : state.timelines.timeline? setup.hardware channel = some timeline :=
    Store.timeline?_of_find? hfound
  exact ⟨hsound.timelines channel timeline htimeline,
    (h.conforms hfirst channel timeline htimeline).configured⟩

/-- **Plays are exact.** A play statement that succeeds is about a configured element with two
    quadratures and adds one pulse to it, under the name of the operation, with as many samples on
    either quadrature as its duration has, or else the configured pulse, and no more than the limit.
    All other timelines, the variables and the streams stay as they are. -/
theorem plays_are_exact (hconfigured : state.timelines.Configured setup.hardware)
    (hrun : (execute setup (.play pulse element amplitude length)).run state = .ok () next) :
    ∃ target n timeline later, setup.hardware.element? element = some target ∧ target.kind = .iq
      ∧ PlaysFor setup state element pulse length n ∧ n ≤ setup.settings.maxPulseSamples
      ∧ state.timelines.timeline? setup.hardware element = some timeline
      ∧ timeline.Plays pulse.name n later
      ∧ next.timelines = state.timelines.put element later
      ∧ next.timelines.find? element = some later
      ∧ (∀ other, other ≠ element → next.timelines.find? other = state.timelines.find? other)
      ∧ next.environment = state.environment ∧ next.streams = state.streams := by
  obtain ⟨evaluated, samples, hdrawn, hlength, hplayed⟩ := run_play_eq_ok hrun
  obtain ⟨timeline, hfound, hkind, hlimit, rfl⟩ := run_playSamples_eq_ok hplayed
  rw [OnlyDrawn] at hdrawn
  have htimelines : evaluated.timelines = state.timelines := by rw [hdrawn]
  have henvironment : evaluated.environment = state.environment := by rw [hdrawn]
  have hstreams : evaluated.streams = state.streams := by rw [hdrawn]
  rw [htimelines] at hfound
  obtain ⟨hsound, target, htarget, htargetKind⟩ := hconfigured.of_timeline? hfound
  refine ⟨target, samples.count, timeline, _, htarget, htargetKind.symm.trans hkind, hlength,
    hlimit, hfound, hsound.plays hkind pulse.name samples, ?_, ?_, ?_, henvironment, hstreams⟩
  · simp only [htimelines]
  · exact Store.find?_put_self ..
  · intro other hother
    simp only [htimelines]
    exact Store.find?_put_of_ne state.timelines _ hother

/-- A ramp of one clock cycle with twice its slope. -/
def scaledRamp : Statement :=
  .play (.ramp (.literal "0.5" none)) "q1" (some (.literal "2" none)) (some (.literal "1" none))

/-- The ramp follows a wait on both elements, and leaves the other one alone. -/
theorem play_of_scaledRamp :
    ∃ state next timeline later,
      Reached {shortPulses} ⟨.empty, .empty, .empty, .empty⟩ state
      ∧ state.timelines.Configured shortPulses.hardware
      ∧ (execute shortPulses scaledRamp).run state = .ok () next
      ∧ state.timelines.timeline? shortPulses.hardware "q1" = some timeline ∧ timeline.cursor = 4
      ∧ timeline.Plays "ramp" 4 later
      ∧ next.timelines.find? "q1" = some later
      ∧ later.segments = [.iq [.delay 4, .play "ramp" [0.0, 1.0, 2.0, 3.0]]
        [.delay 4, .play "ramp" [0.0, 0.0, 0.0, 0.0]]]
      ∧ next.timelines.find? "flux" = state.timelines.find? "flux" := by
  let waited : RunState := stateAfter (execute shortPulses
    (.wait (.literal "1" none) ["q1", "flux"])) ⟨.empty, .empty, .empty, .empty⟩
  have hreached : Reached {shortPulses} ⟨.empty, .empty, .empty, .empty⟩ waited :=
    .executed (Set.mem_singleton shortPulses) _ .start
  have hconfigured := hreached.configured rfl
  have hends : (stateIfOk? (execute shortPulses scaledRamp) waited).map
      (fun next => (next.timelines.find? "q1").map Timeline.segments)
        = some (some [.iq [.delay 4, .play "ramp" [0.0, 1.0, 2.0, 3.0]]
          [.delay 4, .play "ramp" [0.0, 0.0, 0.0, 0.0]]]) := by decide +kernel
  obtain ⟨next, hnext, hsegments⟩ := Option.map_eq_some_iff.1 hends
  obtain ⟨u, hrun⟩ := stateIfOk?_eq_some_iff.1 hnext
  obtain ⟨target, n, timeline, later, -, -, hlasts, -, hfound, hplays, -, hlater, hothers, -⟩ :=
    plays_are_exact hconfigured hrun
  have hcursor : (waited.timelines.timeline? shortPulses.hardware "q1").map Timeline.cursor
      = some 4 := by decide +kernel
  rw [hfound] at hcursor
  -- The duration is one clock cycle of four samples.
  obtain ⟨cycles, drawn, hcycles, hn⟩ := hlasts
  cases (show (value (.literal "1" none)).run waited = .ok (.int 1) waited from rfl).symm.trans
    hcycles
  have hfour : n = 4 := Int.ofNat.inj hn
  subst hfour
  rw [hlater] at hsegments
  exact ⟨waited, next, timeline, later, hreached, hconfigured, hrun, hfound,
    Option.some.inj hcursor, hplays, hlater, Option.some.inj hsegments, hothers "flux" (by decide)⟩

end Run

end PulseTimeline
