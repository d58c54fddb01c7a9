import PulseTimeline.Decimal.Integer
import PulseTimeline.Text.Quoted
import PulseTimeline.Value.Literal

set_option autoImplicit false

/-! # What can be wrong with a raw tree -/

namespace PulseTimeline

/-- Why a raw tree is not a program. Nodes are named by their kind. -/
inductive TreeError where
  /-- The text is no JSON document at all. -/
  | notJson
  | unhandledField (node field : String)
  | unhandledNode (category kind : String)
  | emptyNode (category : String)
  | ambiguousNode (category : String) (kinds : List String)
  | missingField (node field : String)
  | invalidType (node expected : String)
  | conflictingFields (node first second : String)
  | unknownOperator (operator : String)
  | unknownScalarType (name : String)
  | invalidLiteral (error : LiteralError)
  | definitionSizeMismatch (name : String) (size values : Nat)
  | arrayTooLarge (name : String) (size limit : Nat)
  | invalidAssignTarget (target : String)
  deriving DecidableEq

/-- The wording of the error. -/
def TreeError.message : TreeError → String
  | notJson => "invalid program JSON"
  | unhandledField node field => "unhandled field `" ++ field ++ "` in `" ++ node ++ "` node"
  | unhandledNode category kind => "unhandled " ++ category ++ " node `" ++ kind ++ "`"
  | emptyNode category => category ++ " node is empty"
  | ambiguousNode category kinds =>
    category ++ " node has more than one kind: " ++ Text.quoteList kinds
  | missingField node field => "missing field `" ++ field ++ "` in `" ++ node ++ "` node"
  | invalidType node expected => "expected " ++ expected ++ " for `" ++ node ++ "`"
  | conflictingFields node first second =>
    "`" ++ node ++ "` node cannot carry both `" ++ first ++ "` and `" ++ second ++ "`"
  | unknownOperator operator => "unknown operator `" ++ operator ++ "`"
  | unknownScalarType name => "unknown scalar type `" ++ name ++ "`"
  | invalidLiteral error => error.message
  | definitionSizeMismatch name size values =>
    "array `" ++ name ++ "` has size " ++ Decimal.natText size ++ " but " ++
      Decimal.natText values ++ " initial values"
  | arrayTooLarge name size limit =>
    "array `" ++ name ++ "` has size " ++ Decimal.natText size ++ ", more than the limit of " ++
      Decimal.natText limit
  | invalidAssignTarget target => "cannot assign to `" ++ target ++ "`"

end PulseTimeline
