import PulseTimeline.Configuration.Hardware
import PulseTimeline.Decimal.Binary64
import PulseTimeline.Decimal.Integer
import PulseTimeline.Waveform.Samples

set_option autoImplicit false

/-! # The samples of operations and ramps

An operation of an element names a pulse, and the pulse names a waveform for the in-phase signal
and, if it has one, for the quadrature signal. Constant waveforms stretch to any length, arbitrary
ones only fit their own. -/

namespace PulseTimeline

/-- Why an operation has no samples. -/
inductive WaveformError where
  | unknownElement (element : String)
  | unknownOperation (element operation : String)
  | unknownPulse (pulse : String)
  | unknownWaveform (waveform : String)
  | missingWaveform (pulse : String)
  | arbitraryLength (waveform : String) (samples length : Nat)
  | rampWithoutDuration
  deriving DecidableEq

/-- The wording of the error. -/
def WaveformError.message : WaveformError → String
  | unknownElement element => "element `" ++ element ++ "` is not configured"
  | unknownOperation element operation =>
    "element `" ++ element ++ "` has no operation `" ++ operation ++ "`"
  | unknownPulse pulse => "pulse `" ++ pulse ++ "` is not configured"
  | unknownWaveform waveform => "waveform `" ++ waveform ++ "` is not configured"
  | missingWaveform pulse => "pulse `" ++ pulse ++ "` has no I or single waveform"
  | arbitraryLength waveform samples length =>
    "arbitrary waveform `" ++ waveform ++ "` has " ++ Decimal.natText samples ++
      " samples but " ++ Decimal.natText length ++ " were requested"
  | rampWithoutDuration => "a ramp needs an explicit duration"

namespace Hardware

/-- The waveform of the given name, if it can be played with the given length. -/
def fittingWaveform (hardware : Hardware) (name : String) (length : Nat) :
    Except WaveformError Waveform :=
  match hardware.waveforms.find? name with
  | none => .error (.unknownWaveform name)
  | some (.constant sample) => .ok (.constant sample)
  | some (.arbitrary samples) =>
    if samples.length = length then .ok (.arbitrary samples)
    else .error (.arbitraryLength name samples.length length)

end Hardware

/-- The sample of a waveform at a position. -/
def Waveform.sample : Waveform → Nat → Float
  | constant sample, _ => sample
  | arbitrary samples, index => samples[index]?.getD 0.0

/-- The waveforms of both quadratures, sample by sample; two constant ones stay a single sample. -/
def Samples.ofWaveforms (length : Nat) : Waveform → Waveform → Samples
  | .constant i, .constant q => .flat ⟨i, q⟩ length
  | i, q => .listed ((List.range length).map fun index => ⟨i.sample index, q.sample index⟩)

/-- The name of the waveform that drives the in-phase signal. -/
def PulseShape.inPhase? (pulse : PulseShape) : Option String :=
  (pulse.waveforms.find? "I").or (pulse.waveforms.find? "single")

/-- The samples of an operation, stretched to a duration and scaled by an amplitude if these are
    given. -/
def Hardware.resolve (hardware : Hardware) (element operation : String) (duration : Option Nat)
    (amplitude : Option Float) : Except WaveformError Samples :=
  match hardware.element? element with
  | none => .error (.unknownElement element)
  | some target =>
    match target.operations.find? operation with
    | none => .error (.unknownOperation element operation)
    | some pulseName =>
      match hardware.pulses.find? pulseName with
      | none => .error (.unknownPulse pulseName)
      | some pulse =>
        match pulse.inPhase? with
        | none => .error (.missingWaveform pulseName)
        | some iName => do
          let length := duration.getD pulse.length
          let i ← hardware.fittingWaveform iName length
          let q ← match pulse.waveforms.find? "Q" with
            | some qName => hardware.fittingWaveform qName length
            | none => .ok (.constant 0.0)
          return (Samples.ofWaveforms length i q).scaledBy amplitude

/-- The samples of a ramp from zero with a slope per sample. -/
def Samples.ramp (slope : Float) (duration : Option Nat) (amplitude : Option Float) :
    Except WaveformError Samples :=
  match duration with
  | none => .error .rampWithoutDuration
  | some length =>
    let points := (List.range length).map fun n =>
      (⟨Binary64.floatOfInt (Int.ofNat n) * slope, 0.0⟩ : IqPoint)
    .ok ((Samples.listed points).scaledBy amplitude)

end PulseTimeline
