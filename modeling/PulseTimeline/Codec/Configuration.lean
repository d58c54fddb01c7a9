import PulseTimeline.Codec.Value
import PulseTimeline.Configuration.Setup
import PulseTimeline.Json.Reader

set_option autoImplicit false

/-! # Configurations as documents

Everything in a hardware description may be left out but the length of a pulse and the samples of a
waveform; of the settings, each has its standard value. -/

namespace PulseTimeline

/-- A member that is written only if there is a value. -/
def Json.member {α : Type} (key : String) (encode : α → Json) : Option α → List (String × Json)
  | some a => [(key, encode a)]
  | none => []

/-- An element as a document. -/
def Element.encode (element : Element) : Json :=
  .object (Json.member "mixInputs" id element.mixInputs ++
    Json.member "singleInput" id element.singleInput ++
    [("operations", element.operations.encode .text)] ++
    Json.member "ramp_to_zero_duration" (fun n => .int (Int.ofNat n)) element.rampToZeroDuration)

/-- The element that a document holds. -/
def Element.decode (json : Json) : Decoded Element := do
  let record ← Decode.fields
    ["mixInputs", "singleInput", "operations", "ramp_to_zero_duration"] json
  let mixInputs ← record.withDefault "mixInputs" none (Decode.option Decode.document)
  let singleInput ← record.withDefault "singleInput" none (Decode.option Decode.document)
  let operations ← record.withDefault "operations" .empty (Decode.table Decode.string)
  let rampToZeroDuration ← record.withDefault "ramp_to_zero_duration" none
    (Decode.option (Decode.natural 64))
  return { mixInputs, singleInput, operations, rampToZeroDuration }

/-- A pulse as a document. -/
def PulseShape.encode (pulse : PulseShape) : Json :=
  .object [("operation", .text pulse.operation), ("length", .int (Int.ofNat pulse.length)),
    ("waveforms", pulse.waveforms.encode .text)]

/-- The pulse that a document holds. -/
def PulseShape.decode (json : Json) : Decoded PulseShape := do
  let record ← Decode.fields ["operation", "length", "waveforms"] json
  let operation ← record.withDefault "operation" "" Decode.string
  let length ← record.required "length" (Decode.natural 64)
  let waveforms ← record.withDefault "waveforms" .empty (Decode.table Decode.string)
  return { operation, length, waveforms }

/-- A waveform as a document. -/
def Waveform.encode : Waveform → Json
  | constant sample => .object [("type", .text "constant"), ("sample", .float sample)]
  | arbitrary samples =>
    .object [("type", .text "arbitrary"), ("samples", .array (samples.map .float))]

/-- The waveform that a document holds. -/
def Waveform.decode (json : Json) : Decoded Waveform := do
  match ← Decode.tagged "type" ["constant", "arbitrary"] false json with
  | ("constant", content) =>
    let record ← Decode.fields ["sample"] content
    return .constant (← record.required "sample" Decode.float)
  | ("arbitrary", content) =>
    let record ← Decode.fields ["samples"] content
    return .arbitrary (← record.required "samples" (Decode.list Decode.float))
  | _ => .error .malformed

namespace Hardware

/-- A hardware description as a document. -/
def encode (hardware : Hardware) : Json :=
  .object
    [("elements", hardware.elements.encode Element.encode),
      ("pulses", hardware.pulses.encode PulseShape.encode),
      ("waveforms", hardware.waveforms.encode Waveform.encode)]

/-- The hardware description that a document holds. -/
def decode (json : Json) : Decoded Hardware := do
  let record ← Decode.fields ["elements", "pulses", "waveforms"] json
  let elements ← record.withDefault "elements" .empty (Decode.table Element.decode)
  let pulses ← record.withDefault "pulses" .empty (Decode.table PulseShape.decode)
  let waveforms ← record.withDefault "waveforms" .empty (Decode.table Waveform.decode)
  return { elements, pulses, waveforms }

end Hardware

namespace QubitMap

/-- A map of qubits as a document. -/
def encode (map : QubitMap) : Json :=
  .object (map.entries.map fun entry =>
    (entry.1, .array (entry.2.map fun n => .int (Int.ofNat n))))

/-- The map of qubits that a document holds. A repeated element takes its last qubits. -/
def decode (json : Json) : Decoded QubitMap := do
  let entries ← Decode.members (Decode.list (Decode.natural 32)) json
  return ofList (Sorted.ofEntries entries)

end QubitMap

namespace Settings

/-- Settings as a document. -/
def encode (settings : Settings) : Json :=
  .object
    [("clock_cycle_samples", .int settings.clockCycleSamples.toInt),
      ("max_loop_iterations", .int (Int.ofNat settings.maxLoopIterations)),
      ("max_pulse_samples", .int (Int.ofNat settings.maxPulseSamples))]

/-- The settings that a document holds. -/
def decode (json : Json) : Decoded Settings := do
  let record ← Decode.fields
    ["clock_cycle_samples", "max_loop_iterations", "max_pulse_samples"] json
  let clockCycleSamples ← record.withDefault "clock_cycle_samples"
    Settings.standard.clockCycleSamples Decode.int64
  let maxLoopIterations ← record.withDefault "max_loop_iterations"
    Settings.standard.maxLoopIterations (Decode.natural 64)
  let maxPulseSamples ← record.withDefault "max_pulse_samples"
    Settings.standard.maxPulseSamples (Decode.natural 64)
  return { clockCycleSamples, maxLoopIterations, maxPulseSamples }

end Settings

/-- What a text spells as a document of some type. -/
def Decoded.ofText {α : Type} (decode : Json → Decoded α) (source : String) : Decoded α :=
  match Json.read? source with
  | some document => decode document
  | none => .error .malformed

end PulseTimeline
