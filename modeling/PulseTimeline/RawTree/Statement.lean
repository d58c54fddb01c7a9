import PulseTimeline.RawTree.Expression
import PulseTimeline.Statement.Basic

set_option autoImplicit false

/-! # Statements in raw trees

Each kind of statement is a node with its own fields, and blocks are nodes with a list of
statements. What steers hardware alone (`unsafe`, the processing of measurements) is checked in
shape and then left out. -/

namespace PulseTimeline.RawTree

/-- The element of a node. -/
def element (node : Node) : Except TreeError String := do
  nameIn "qe" (← node.required "qe")

/-- The elements of a node: none, a list, or a single one. -/
def elements (node : Node) : Except TreeError (List String) :=
  match node.optional "qe" with
  | none => .ok []
  | some (.array items) => items.mapM (nameIn "qe")
  | some raw => return [← nameIn "qe" raw]

/-- The pulse of a play node, which is either named or a ramp. -/
def pulse (height : Nat) (node : Node) : Except TreeError Pulse :=
  match node.optional "namedPulse", node.optional "rampPulse" with
  | some named, none => return .named (← nameIn "namedPulse" named)
  | none, some ramp => do
    let node ← Node.of "rampPulse" ramp ["value"]
    return .ramp (← expression height (← node.required "value"))
  | some _, some _ => .error (.conflictingFields "play" "namedPulse" "rampPulse")
  | none, none => .error (.missingField "play" "namedPulse")

/-- The factor of an amplitude node. -/
def amplitude (height : Nat) (raw : Json) : Except TreeError Expression := do
  let node ← Node.of "amp" raw ["v0"]
  expression height (← node.required "v0")

/-- A play statement. -/
def playStatement (height : Nat) (body : Json) : Except TreeError Statement := do
  let node ← Node.of "play" body ["qe", "namedPulse", "rampPulse", "amp", "duration"]
  let pulse ← pulse height node
  let amplitude ← (node.optional "amp").mapM (amplitude height)
  let duration ← (node.optional "duration").mapM (expression height)
  return .play pulse (← element node) amplitude duration

/-- A measure statement. The processing of its results is checked in shape only. -/
def measureStatement (body : Json) : Except TreeError Statement := do
  let node ← Node.of "measure" body
    ["qe", "pulse", "measureProcesses", "streamAs", "timestampLabel"]
  let _ ← node.list "measureProcesses"
  let _ ← node.optionalString "streamAs"
  let _ ← node.optionalString "timestampLabel"
  let operation ← (node.optional "pulse").mapM (nameIn "pulse")
  return .measure (← element node) operation

/-- The target that an expression stands for. -/
def target : Expression → Except TreeError Target
  | .reference name => .ok (.reference name)
  | .cell array index => .ok (.cell array index)
  | other => .error (.invalidAssignTarget other.text)

/-- An assign statement. -/
def assignStatement (height : Nat) (body : Json) : Except TreeError Statement := do
  let node ← Node.of "assign" body ["target", "expression"]
  let target ← target (← expression height (← node.required "target"))
  return .assign target (← expression height (← node.required "expression"))

mutual

/-- The statements of a block. The height bounds the nesting of the tree; a tree of height zero is
    no mapping. -/
def block : Nat → Json → Except TreeError (List Statement)
  | 0, _ => .error (.invalidType "block" "a mapping")
  | height + 1, raw => do
    let node ← Node.of "block" raw ["statements"]
    (← node.list "statements").mapM (statement height)

/-- The statement that a raw tree stands for. -/
def statement : Nat → Json → Except TreeError Statement
  | 0, _ => .error (.invalidType "statement" "a mapping")
  | height + 1, raw => do
    let (kind, body) ← singleEntry "statement" raw
    match kind with
    | "play" => playStatement height body
    | "measure" => measureStatement body
    | "align" => return .align (← elements (← Node.of "align" body ["qe"]))
    | "assign" => assignStatement height body
    | "if" =>
      let node ← Node.of "if" body ["condition", "body", "elseifs", "else", "unsafe"]
      let condition ← expression height (← node.required "condition")
      let body ← block height (← node.required "body")
      let elseIfs ← (← node.list "elseifs").mapM (guarded height "elseif" "condition")
      let elseBody ← (node.optional "else").mapM (block height)
      return .branch condition body elseIfs elseBody
    | "resetPhase" => return .resetPhase (← elements (← Node.of "resetPhase" body ["qe"]))
    | "rampToZero" =>
      let node ← Node.of "rampToZero" body ["qe", "duration"]
      let duration ← (node.optional "duration").mapM (expression height)
      return .rampToZero (← element node) duration
    | "wait" =>
      let node ← Node.of "wait" body ["time", "qe"]
      let duration ← expression height (← node.required "time")
      return .wait duration (← elements node)
    | "zRotation" =>
      let node ← Node.of "zRotation" body ["value", "qe"]
      let angle ← expression height (← node.required "value")
      return .frameRotation angle (← elements node)
    | "for" =>
      let node ← Node.of "for" body ["init", "condition", "update", "body"]
      let init ← (node.optional "init").mapM (block height)
      let update ← (node.optional "update").mapM (block height)
      let condition ← expression height (← node.required "condition")
      let body ← block height (← node.required "body")
      return .loop (init.getD []) condition (update.getD []) body
    | "switch" =>
      let node ← Node.of "switch" body ["expression", "cases", "default", "unsafe"]
      let subject ← expression height (← node.required "expression")
      let cases ← (← node.list "cases").mapM (guarded height "case" "value")
      let default ← (node.optional "default").mapM (block height)
      return .switch subject cases default
    | "strictTiming" =>
      let node ← Node.of "strictTiming" body ["body"]
      return .strictTiming (← block height (← node.required "body"))
    | "save" =>
      let node ← Node.of "save" body ["source", "tag"]
      let value ← expression height (← node.required "source")
      return .save value (← node.requiredString "tag")
    | other => .error (.unhandledNode "statement" other)

/-- A block under an expression of its own: a further condition of an if node or a case. -/
def guarded : Nat → String → String → Json → Except TreeError (Expression × List Statement)
  | 0, kind, _, _ => .error (.invalidType kind "a mapping")
  | height + 1, kind, guard, raw => do
    let node ← Node.of kind raw [guard, "body"]
    let condition ← expression height (← node.required guard)
    return (condition, ← block height (← node.required "body"))

end

end PulseTimeline.RawTree
