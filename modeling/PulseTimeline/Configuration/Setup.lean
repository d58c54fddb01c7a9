import PulseTimeline.Configuration.Hardware
import PulseTimeline.Configuration.QubitMap

set_option autoImplicit false

/-! # What a program runs against -/

namespace PulseTimeline

/-- The length of a clock cycle in samples and the limits of a run. -/
structure Settings where
  clockCycleSamples : Int64
  maxLoopIterations : Nat
  maxPulseSamples : Nat
  deriving DecidableEq

/-- Cycles of four samples, loops of a million rounds, pulses of 2^24 samples. -/
def Settings.standard : Settings := ⟨4, 1000000, 1 <<< 24⟩

/-- The hardware, its qubits and the settings of a run. -/
structure Setup where
  hardware : Hardware
  qubits : QubitMap
  settings : Settings

instance : Inhabited Setup := ⟨⟨default, default, .standard⟩⟩

end PulseTimeline
