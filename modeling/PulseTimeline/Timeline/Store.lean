import PulseTimeline.Configuration.Setup
import PulseTimeline.Timeline.Basic

set_option autoImplicit false

/-! # The store of timelines

The timelines of all elements that a program touches, in the order in which they were first
touched. A timeline is created when it is needed, with the kind that the hardware gives its
element. An operation that fails keeps the timelines that it created. -/

namespace PulseTimeline

/-- The timelines by element. -/
structure Store where
  timelines : Table Timeline
  deriving DecidableEq

namespace Store

/-- The store without timelines. -/
def empty : Store := ⟨.empty⟩

instance : Inhabited Store := ⟨empty⟩

/-- The timeline of an element that has been touched. -/
def find? (store : Store) (channel : String) : Option Timeline := store.timelines.find? channel

/-- The elements, in the order in which they were first touched. -/
def channels (store : Store) : List String := store.timelines.keys

/-- File a timeline under the name of an element. -/
def put (store : Store) (channel : String) (timeline : Timeline) : Store :=
  ⟨store.timelines.insert channel timeline⟩

/-- The timeline of an element, created if the element is configured and has none yet. -/
def demand (hardware : Hardware) (channel : String) : EStateM TimelineError Store Timeline :=
  fun store =>
    match store.find? channel with
    | some timeline => .ok timeline store
    | none =>
      match hardware.element? channel with
      | some element =>
        let timeline := Timeline.new channel element.kind
        .ok timeline (store.put channel timeline)
      | none => .error (.unknownChannel channel) store

/-- Change the timeline of an element. -/
def edit (hardware : Hardware) (channel : String) (change : Timeline.Edit) :
    EStateM TimelineError Store Unit := do
  let timeline ← demand hardware channel
  fun store =>
    match change timeline with
    | .ok _ changed => .ok () (store.put channel changed)
    | .error e changed => .error e (store.put channel changed)

/-- Change the timelines of several elements in turn. -/
def editAll (hardware : Hardware) (change : Timeline.Edit) :
    List String → EStateM TimelineError Store Unit
  | [] => pure ()
  | channel :: rest => do
    edit hardware channel change
    editAll hardware change rest

/-- The latest time that one of the elements has come to, but no earlier than the given one. -/
def latest (hardware : Hardware) (time : Nat) : List String → EStateM TimelineError Store Nat
  | [] => pure time
  | channel :: rest => do
    let timeline ← demand hardware channel
    latest hardware (max time timeline.cursor) rest

/-- Let elements wait for the one that has come furthest. No elements stand for all that have been
    touched. -/
def align (hardware : Hardware) (channels : List String) : EStateM TimelineError Store Unit := do
  let store ← get
  let names := if channels.isEmpty then store.channels else channels
  let time ← latest hardware 0 names
  editAll hardware (Timeline.padTo time) names

/-- The configured elements that share a qubit with the given one, and that one itself. -/
def restartGroup (setup : Setup) (channel : String) : List String :=
  (setup.qubits.sharing channel).filter fun other =>
    other == channel || (setup.hardware.element? other).isSome

/-- Align the elements that share a qubit with the given one, and begin a new segment on each. -/
def restartSharing (setup : Setup) (channel : String) : EStateM TimelineError Store Unit := do
  let names := restartGroup setup channel
  align setup.hardware names
  editAll setup.hardware Timeline.restart names

end Store

end PulseTimeline
