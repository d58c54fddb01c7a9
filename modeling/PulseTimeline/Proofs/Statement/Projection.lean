import PulseTimeline.Proofs.Statement.Thinning

set_option autoImplicit false

/-! # The part of a program that concerns one channel

What is played on other channels is left out, at every depth, and of the elements of a statement
only the channel itself stays, as often as it is named. Assignments, conditions and results concern
every channel. -/

namespace PulseTimeline

namespace Statement

/-- Those of the elements that are the channel. -/
def occurrences (channel : String) (elements : List String) : List String :=
  elements.filter fun element => element == channel

section

variable {channel : String} {elements : List String}

@[simp] theorem occurrences_cons_self (channel : String) (elements : List String) :
    occurrences channel (channel :: elements) = channel :: occurrences channel elements := by
  simp [occurrences]

theorem occurrences_cons_of_ne {element : String} (h : channel ≠ element) :
    occurrences channel (element :: elements) = occurrences channel elements := by
  simp [occurrences, Ne.symm h]

theorem occurrences_eq_nil_iff : occurrences channel elements = [] ↔ channel ∉ elements := by
  rw [occurrences, List.filter_eq_nil_iff, ← List.forall_mem_ne']
  simp

end

/-- The statement about those of its elements that are the channel, if there are any. -/
def restricted? (channel : String) (elements : List String) (about : List String → Statement) :
    Option Statement :=
  match occurrences channel elements with
  | [] => none
  | named => some (about named)

section

variable {channel : String} {elements : List String} {about : List String → Statement}

theorem restricted?_eq_none_iff :
    restricted? channel elements about = none ↔ channel ∉ elements := by
  rw [← occurrences_eq_nil_iff, restricted?]
  cases occurrences channel elements <;> simp

theorem restricted?_eq_some_iff {kept : Statement} :
    restricted? channel elements about = some kept
      ↔ occurrences channel elements ≠ [] ∧ about (occurrences channel elements) = kept := by
  rw [restricted?]
  cases occurrences channel elements <;> simp

end

mutual

/-- The part of a statement that concerns a channel, if any does. -/
def onChannel? (channel : String) : Statement → Option Statement
  | play pulse element amplitude duration =>
    if element = channel then some (play pulse element amplitude duration) else none
  | rampToZero element duration =>
    if element = channel then some (rampToZero element duration) else none
  | wait duration elements => restricted? channel elements (wait duration)
  | frameRotation angle elements => restricted? channel elements (frameRotation angle)
  | resetPhase elements => restricted? channel elements resetPhase
  | branch condition body elseIfs elseBody =>
    some (branch condition (blockOnChannel channel body) (guardedOnChannel channel elseIfs)
      (optionalOnChannel channel elseBody))
  | loop init condition update body =>
    some (loop (blockOnChannel channel init) condition (blockOnChannel channel update)
      (blockOnChannel channel body))
  | switch subject cases default =>
    some (switch subject (guardedOnChannel channel cases) (optionalOnChannel channel default))
  | strictTiming body => some (strictTiming (blockOnChannel channel body))
  | measure element operation => some (measure element operation)
  | align elements => some (align elements)
  | assign target value => some (assign target value)
  | save value stream => some (save value stream)

/-- The part of a block that concerns a channel. -/
def blockOnChannel (channel : String) : List Statement → List Statement
  | [] => []
  | first :: rest =>
    match first.onChannel? channel with
    | some kept => kept :: blockOnChannel channel rest
    | none => blockOnChannel channel rest

/-- The parts of blocks under expressions of their own that concern a channel. -/
def guardedOnChannel (channel : String) :
    List (Expression × List Statement) → List (Expression × List Statement)
  | [] => []
  | (condition, body) :: rest =>
    (condition, blockOnChannel channel body) :: guardedOnChannel channel rest

/-- The part of a block that may be absent that concerns a channel. -/
def optionalOnChannel (channel : String) : Option (List Statement) → Option (List Statement)
  | none => none
  | some body => some (blockOnChannel channel body)

end

theorem blockOnChannel_eq (channel : String) (block : List Statement) :
    blockOnChannel channel block = block.filterMap (onChannel? channel) :=
  eq_filterMap (by rw [blockOnChannel])
    (fun first rest => by cases h : first.onChannel? channel <;> simp only [blockOnChannel, h])
    block

theorem guardedOnChannel_eq (channel : String) (branches : List (Expression × List Statement)) :
    guardedOnChannel channel branches = thinnedBranches (onChannel? channel) branches :=
  eq_thinnedBranches (by rw [guardedOnChannel])
    (fun _ _ _ => by rw [guardedOnChannel, blockOnChannel_eq]) branches

theorem optionalOnChannel_eq (channel : String) (body : Option (List Statement)) :
    optionalOnChannel channel body = body.map (List.filterMap (onChannel? channel)) := by
  cases body with
  | none => rw [optionalOnChannel, Option.map_none]
  | some block => rw [optionalOnChannel, Option.map_some, blockOnChannel_eq]

theorem isThinning_onChannel? (channel : String) : IsThinning (onChannel? channel) where
  branch _ _ _ _ := by
    rw [onChannel?, blockOnChannel_eq, guardedOnChannel_eq, optionalOnChannel_eq]
  loop _ _ _ _ := by rw [onChannel?, blockOnChannel_eq, blockOnChannel_eq, blockOnChannel_eq]
  switch _ _ _ := by rw [onChannel?, guardedOnChannel_eq, optionalOnChannel_eq]
  strictTiming _ := by rw [onChannel?, blockOnChannel_eq]

/-- The statement does not bring channels together: it is no alignment, no measurement and no wait
    of all elements that have been touched. -/
def IsLocal : Statement → Prop
  | align _ => False
  | measure _ _ => False
  | wait _ elements => elements ≠ []
  | _ => True

/-- The statement is local, and calls no function if it does not concern the channel. -/
def IsSeparable (channel : String) (statement : Statement) : Prop :=
  statement.IsLocal
    ∧ (statement.onChannel? channel = none → ∀ e ∈ statement.expressions, e.CallFree)

end Statement

/-- Whatever stands in the program is separable. -/
def Program.IsSeparable (channel : String) (program : Program) : Prop :=
  ∀ statement ∈ program.body, statement.Everywhere (Statement.IsSeparable channel)

/-- The part of a program that concerns a channel. The variables stay. -/
def Program.onChannel (channel : String) (program : Program) : Program :=
  ⟨Statement.blockOnChannel channel program.body, program.definitions⟩

end PulseTimeline
