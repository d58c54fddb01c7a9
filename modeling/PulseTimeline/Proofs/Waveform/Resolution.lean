import PulseTimeline.Proofs.Computation
import PulseTimeline.Waveform.Resolve

set_option autoImplicit false

/-! # How operations are resolved

An operation is resolved by look-ups: first those of names, then those of waveforms. If it is
resolved, it has as many samples as it is asked for, or as the pulse that it names is configured
with; a ramp has to be asked for a number. Neither the amplitude nor the form in which the samples
are kept changes their number. -/

namespace PulseTimeline

/-! ## Counts -/

namespace Samples

@[simp] theorem count_scaledBy (samples : Samples) (factor : Option Float) :
    (samples.scaledBy factor).count = samples.count := by
  cases factor with
  | none => rfl
  | some f => cases samples <;> simp [scaledBy, scaled, count]

@[simp] theorem count_ofWaveforms (length : Nat) (i q : Waveform) :
    (ofWaveforms length i q).count = length := by
  unfold ofWaveforms
  split <;> simp [count]

/-- A ramp has the length that is asked for, and there is none if no length is. -/
theorem count_of_ramp {slope : Float} {duration : Option Nat} {amplitude : Option Float}
    {samples : Samples} (h : ramp slope duration amplitude = .ok samples) :
    duration = some samples.count := by
  cases duration with
  | none => cases h
  | some length =>
      cases h
      rw [count_scaledBy, count, List.length_map, List.length_range]

end Samples

/-! ## Look-ups -/

/-- The waveform that a pulse names for the in-phase signal: its "I", or lacking that its
    "single". -/
inductive PulseShape.InPhase (pulse : PulseShape) : String → Prop where
  | i {name : String} (h : pulse.waveforms.find? "I" = some name) : InPhase pulse name
  | single {name : String} (hlacking : pulse.waveforms.find? "I" = none)
    (h : pulse.waveforms.find? "single" = some name) : InPhase pulse name

theorem PulseShape.inPhase?_eq_some_iff {pulse : PulseShape} {name : String} :
    pulse.inPhase? = some name ↔ pulse.InPhase name := by
  rw [inPhase?, Option.or_eq_some_iff]
  constructor
  · rintro (h | ⟨hlacking, h⟩)
    · exact .i h
    · exact .single hlacking h
  · intro h
    cases h with
    | i h => exact Or.inl h
    | single hlacking h => exact Or.inr ⟨hlacking, h⟩

namespace Hardware

variable {hardware : Hardware} {element operation : String}

/-- The pulse that an operation of an element names, and its waveform for the in-phase signal. No
    waveform is looked at. -/
def lookUp (hardware : Hardware) (element operation : String) :
    Except WaveformError (PulseShape × String) :=
  match hardware.element? element with
  | none => .error (.unknownElement element)
  | some target =>
    match target.operations.find? operation with
    | none => .error (.unknownOperation element operation)
    | some name =>
      match hardware.pulses.find? name with
      | none => .error (.unknownPulse name)
      | some pulse =>
        match pulse.inPhase? with
        | none => .error (.missingWaveform name)
        | some iName => .ok (pulse, iName)

/-- The waveform of a pulse for the quadrature signal, which is zero if it has none. -/
def fittingQuadrature (hardware : Hardware) (pulse : PulseShape) (length : Nat) :
    Except WaveformError Waveform :=
  match pulse.waveforms.find? "Q" with
  | some name => hardware.fittingWaveform name length
  | none => .ok (.constant 0.0)

/-- Look up the names first and then the waveforms, the one for the in-phase signal before the
    other. -/
theorem resolve_eq (hardware : Hardware) (element operation : String) (duration : Option Nat)
    (amplitude : Option Float) : hardware.resolve element operation duration amplitude
      = hardware.lookUp element operation >>= fun (pulse, iName) =>
        hardware.fittingWaveform iName (duration.getD pulse.length) >>= fun i =>
        hardware.fittingQuadrature pulse (duration.getD pulse.length) >>= fun q =>
        .ok ((Samples.ofWaveforms (duration.getD pulse.length) i q).scaledBy amplitude) := by
  unfold resolve lookUp
  cases hardware.element? element with
  | none => rfl
  | some target =>
      simp only
      cases target.operations.find? operation with
      | none => rfl
      | some name =>
          simp only
          cases hardware.pulses.find? name with
          | none => rfl
          | some pulse =>
              simp only
              cases pulse.inPhase? with
              | none => rfl
              | some iName =>
                  refine congrArg (bind (hardware.fittingWaveform iName _)) (funext fun i => ?_)
                  simp only [fittingQuadrature]
                  cases pulse.waveforms.find? "Q" <;> rfl

/-- An element has an operation whose pulse has a waveform for the in-phase signal. -/
structure Names (hardware : Hardware) (element operation : String) (pulse : PulseShape)
    (iName : String) : Prop where
  shape : ∃ target name, hardware.element? element = some target
    ∧ target.operations.find? operation = some name ∧ hardware.pulses.find? name = some pulse
  inPhase : pulse.InPhase iName

theorem lookUp_eq_ok_iff {pulse : PulseShape} {iName : String} :
    hardware.lookUp element operation = .ok (pulse, iName)
      ↔ hardware.Names element operation pulse iName := by
  constructor
  · intro h
    unfold lookUp at h
    split at h
    · cases h
    · next target htarget =>
        split at h
        · cases h
        · next name hname =>
            split at h
            · cases h
            · next found hpulse =>
                split at h
                · cases h
                · next iName hphase =>
                    cases h
                    exact ⟨⟨target, name, htarget, hname, hpulse⟩,
                      PulseShape.inPhase?_eq_some_iff.1 hphase⟩
  · rintro ⟨⟨target, name, htarget, hname, hpulse⟩, hphase⟩
    simp only [lookUp, htarget, hname, hpulse, PulseShape.inPhase?_eq_some_iff.2 hphase]

/-- The configured length of the pulse that an operation of an element names. -/
def pulseLength? (hardware : Hardware) (element operation : String) : Option Nat := do
  let target ← hardware.element? element
  let name ← target.operations.find? operation
  let pulse ← hardware.pulses.find? name
  return pulse.length

theorem Names.pulseLength? {pulse : PulseShape} {iName : String}
    (h : hardware.Names element operation pulse iName) :
    hardware.pulseLength? element operation = some pulse.length := by
  obtain ⟨⟨target, name, htarget, hname, hpulse⟩, -⟩ := h
  simp [Hardware.pulseLength?, htarget, hname, hpulse]

theorem count_of_resolve {duration : Option Nat} {amplitude : Option Float} {samples : Samples}
    (h : hardware.resolve element operation duration amplitude = .ok samples) :
    ∃ length, hardware.pulseLength? element operation = some length
      ∧ samples.count = duration.getD length := by
  rw [resolve_eq] at h
  obtain ⟨⟨pulse, iName⟩, hfound, h⟩ := except_bind_eq_ok.1 h
  obtain ⟨i, -, h⟩ := except_bind_eq_ok.1 h
  obtain ⟨q, -, h⟩ := except_bind_eq_ok.1 h
  cases h
  refine ⟨pulse.length, (lookUp_eq_ok_iff.1 hfound).pulseLength?, ?_⟩
  rw [Samples.count_scaledBy, Samples.count_ofWaveforms]

end Hardware

end PulseTimeline
