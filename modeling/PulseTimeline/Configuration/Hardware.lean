import PulseTimeline.Json.Basic
import PulseTimeline.Table
import PulseTimeline.Timeline.Instruction

set_option autoImplicit false

/-! # The hardware description

Elements name the pulses of their operations, pulses name waveforms, and waveforms hold samples.
The tables keep the order in which they were written. -/

namespace PulseTimeline

/-- An element: how it is driven and which pulse each of its operations plays. The inputs are
    described in a form that only the hardware knows. -/
structure Element where
  mixInputs : Option Json
  singleInput : Option Json
  operations : Table String
  rampToZeroDuration : Option Nat

/-- An element with mixed inputs has two quadratures. -/
def Element.kind (element : Element) : ChannelKind :=
  if element.mixInputs.isSome then .iq else .single

/-- A pulse: its length in samples and its waveforms by quadrature. -/
structure PulseShape where
  operation : String
  length : Nat
  waveforms : Table String

/-- A waveform: one sample throughout, or a list of them. -/
inductive Waveform where
  | constant (sample : Float)
  | arbitrary (samples : List Float)
  deriving DecidableEq

/-- The elements, pulses and waveforms of a machine. -/
structure Hardware where
  elements : Table Element
  pulses : Table PulseShape
  waveforms : Table Waveform

namespace Hardware

instance : Inhabited Hardware := ⟨⟨.empty, .empty, .empty⟩⟩

/-- The element of the given name. -/
def element? (hardware : Hardware) (name : String) : Option Element := hardware.elements.find? name

end Hardware

end PulseTimeline
