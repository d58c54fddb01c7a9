import PulseTimeline.Codec.Timeline
import PulseTimeline.Run.Execute

set_option autoImplicit false

/-! # Outcomes as documents -/

namespace PulseTimeline

/-- A variable as a document. -/
def Variable.encode : Variable → Json
  | scalar value => .object [("Scalar", value.encode)]
  | array type values =>
    .object [("Array", .object
      [("ty", type.encode), ("values", .array (values.toList.map Value.encode))])]

/-- Variables as a document. -/
def Environment.encode (environment : Environment) : Json :=
  environment.bindings.encode Variable.encode

/-- What a run leaves behind as a document. -/
def Outcome.encode (outcome : Outcome) : Json :=
  .object
    [("timelines", outcome.timelines.encode), ("environment", outcome.environment.encode),
      ("streams", outcome.streams.encode fun values => .array (values.map Value.encode))]

end PulseTimeline
