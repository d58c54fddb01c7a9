import PulseTimeline.Run.State

set_option autoImplicit false

/-! # Running programs

Statements run strictly in order. Elements advance on their own; only `align` and the restart that
follows every measurement bring their timelines together. Any error ends the whole run. -/

namespace PulseTimeline

namespace Run

/-- How long a ramp to zero lasts, in samples, where neither the statement nor the element says. -/
def standardRampToZero : Nat := 4

/-- Refuse a pulse that is longer than the settings allow. -/
def checkPulseLength (setup : Setup) (samples : Nat) : Except RunError Unit :=
  if setup.settings.maxPulseSamples < samples then
    .error (.pulseTooLong samples setup.settings.maxPulseSamples)
  else .ok ()

/-- Play samples on an element, which needs two quadratures. -/
def playSamples (setup : Setup) (element operation : String) (samples : Samples) : Run Unit := do
  let timeline ← onTimelines (Store.demand setup.hardware element)
  if timeline.kind ≠ .iq then throw (.unsupportedPlayTarget element)
  else
    liftOutcome (checkPulseLength setup samples.count)
    let (i, q) := samples.quadratures
    onTimelines (Store.edit setup.hardware element (Timeline.playIq operation i q))

/-- The duration of a play statement, no longer than a pulse may be. -/
def playDuration (setup : Setup) : Option Expression → Run (Option Nat)
  | none => pure none
  | some expression => do
    let samples ← duration setup expression
    liftOutcome (checkPulseLength setup samples)
    return some samples

/-- The amplitude of a play statement. -/
def playAmplitude : Option Expression → Run (Option Float)
  | none => pure none
  | some expression => do return some (← value expression).toReal

/-- The samples of a pulse. -/
def pulseSamples (setup : Setup) (element : String) (duration : Option Nat)
    (amplitude : Option Float) : Pulse → Run Samples
  | .named operation =>
    liftOutcome ((setup.hardware.resolve element operation duration amplitude).mapError .waveform)
  | .ramp slope => do
    let v ← value slope
    liftOutcome ((Samples.ramp v.toReal duration amplitude).mapError .waveform)

/-- Play a pulse on an element. -/
def play (setup : Setup) (pulse : Pulse) (element : String)
    (amplitude length : Option Expression) : Run Unit := do
  let duration ← playDuration setup length
  let factor ← playAmplitude amplitude
  let samples ← pulseSamples setup element duration factor pulse
  playSamples setup element pulse.name samples

/-- Measure an element: play the operation if there is one, mark the start, and begin a new segment
    on every element that shares a qubit. -/
def measure (setup : Setup) (element : String) (operation : Option String) : Run Unit := do
  match operation with
  | some name =>
    let samples ← liftOutcome ((setup.hardware.resolve element name none none).mapError .waveform)
    playSamples setup element name samples
  | none => pure ()
  onTimelines (Store.edit setup.hardware element (Timeline.measure operation))
  onTimelines (Store.restartSharing setup element)

/-- Assign a value to a target. The index of a cell is evaluated after the value. -/
def assign (target : Target) (expression : Expression) : Run Unit := do
  let v ← value expression
  match target with
  | .reference name => onEnvironment (Environment.assign name v)
  | .cell array index =>
    let position ← integer index
    onEnvironment (Environment.assignElement array position v)

/-- How long a ramp to zero lasts: as the statement says, or the element, or by default. -/
def rampToZeroDuration (setup : Setup) (element : String) : Option Expression → Run Nat
  | some expression => duration setup expression
  | none =>
    return ((setup.hardware.element? element).bind (·.rampToZeroDuration)).getD standardRampToZero

/-- Let elements wait; no elements stand for all that have been touched. -/
def wait (setup : Setup) (expression : Expression) (elements : List String) : Run Unit := do
  let samples ← duration setup expression
  let state ← get
  let names := if elements.isEmpty then state.timelines.channels else elements
  onTimelines (Store.editAll setup.hardware (Timeline.delay samples) names)

/-- Turn the frames of elements by an angle in turns. -/
def rotateFrame (setup : Setup) (angle : Expression) (elements : List String) : Run Unit := do
  let v ← value angle
  let phase := Cycles.toRadians ⟨v.toReal⟩
  onTimelines (Store.editAll setup.hardware (Timeline.phaseOffset phase) elements)

/-- Whether the value of a case equals the subject. -/
def matchesCase (subject : Value) (expression : Expression) : Run Bool := do
  let v ← value expression
  let equal ← liftOutcome ((BinaryOperator.equal.calculate subject v).mapError .operator)
  return equal.toBool

mutual

/-- Run a statement. -/
def execute (setup : Setup) : Statement → Run Unit
  | .play pulse element amplitude length => play setup pulse element amplitude length
  | .measure element operation => measure setup element operation
  | .align elements => onTimelines (Store.align setup.hardware elements)
  | .assign target expression => assign target expression
  | .branch guard body elseIfs elseBody => do
    if ← condition guard then executeBlock setup body
    else if ← executeFirst setup condition elseIfs then pure ()
    else executeOptional setup elseBody
  | .resetPhase elements =>
    onTimelines (Store.editAll setup.hardware Timeline.resetPhase elements)
  | .rampToZero element length => do
    let samples ← rampToZeroDuration setup element length
    onTimelines (Store.edit setup.hardware element (Timeline.rampToZero samples))
  | .wait length elements => wait setup length elements
  | .frameRotation angle elements => rotateFrame setup angle elements
  | .loop init guard update body => do
    executeBlock setup init
    let limit := setup.settings.maxLoopIterations
    repeatWhile limit (condition guard)
      (do executeBlock setup body; executeBlock setup update) limit
  | .switch subject cases default => do
    let v ← value subject
    if ← executeFirst setup (matchesCase v) cases then pure ()
    else executeOptional setup default
  | .strictTiming body => executeBlock setup body
  | .save expression stream => do
    let v ← value expression
    save stream v

/-- Run the statements of a block in order. -/
def executeBlock (setup : Setup) : List Statement → Run Unit
  | [] => pure ()
  | first :: rest => do
    execute setup first
    executeBlock setup rest

/-- Run the first of several blocks whose expression passes a test; tell whether there was one. -/
def executeFirst (setup : Setup) (test : Expression → Run Bool) :
    List (Expression × List Statement) → Run Bool
  | [] => pure false
  | (guard, body) :: rest => do
    if ← test guard then
      executeBlock setup body
      return true
    else executeFirst setup test rest

/-- Run a block that may be absent. -/
def executeOptional (setup : Setup) : Option (List Statement) → Run Unit
  | none => pure ()
  | some body => executeBlock setup body

end

end Run

/-- What a run leaves behind. -/
structure Outcome where
  timelines : Store
  environment : Environment
  streams : Table (List Value)
  deriving DecidableEq

namespace Program

/-- The state in which the body of a program begins. -/
def initialState (program : Program) : Except RunError RunState := do
  let environment ← Environment.ofDefinitions program.definitions
  return { environment, timelines := .empty, random := .empty, streams := .empty }

/-- Run a program from the beginning. -/
def run (program : Program) (setup : Setup) : Except RunError Outcome := do
  let state ← program.initialState
  match Run.executeBlock setup program.body state with
  | .ok _ last => .ok ⟨last.timelines, last.environment, last.streams⟩
  | .error e _ => .error e

end Program

end PulseTimeline
