import PulseTimeline.Proofs.Computation
import PulseTimeline.Timeline.Basic

set_option autoImplicit false

/-! # Calls on timelines

A call is an operation on a timeline with its arguments. `run_edit` says all that a call can do: the
timeline refuses it and stays as it is, or the call has its `result`. Every law about timelines
argues about `refusal?` and `result`, never about the steps of an operation. -/

namespace PulseTimeline

namespace Timeline

/-- An operation on a timeline with its arguments. -/
inductive Call where
  | delay (duration : Nat)
  | playIq (operation : String) (i q : List Float)
  | measure (operation : Option String)
  | phaseOffset (phase : Radians)
  | resetPhase
  | rampToZero (duration : Nat)
  | restart

/-- Why the cursor of a timeline cannot move on, if it cannot. -/
def overflow? (timeline : Timeline) (samples : Nat) : Option TimelineError :=
  if timeline.cursor + samples ≤ maxDuration then none
  else some (.durationOverflow timeline.channel)

namespace Call

/-- The change that a call asks for. -/
def edit : Call → Edit
  | delay duration => Timeline.delay duration
  | playIq operation i q => Timeline.playIq operation i q
  | measure operation => Timeline.measure operation
  | phaseOffset phase => Timeline.phaseOffset phase
  | resetPhase => Timeline.resetPhase
  | rampToZero duration => Timeline.rampToZero duration
  | restart => Timeline.restart

/-- How many samples a call takes. -/
def samples : Call → Nat
  | delay duration => duration
  | playIq _ i _ => i.length
  | rampToZero duration => duration
  | _ => 0

/-- Why a timeline refuses a call, if it does. -/
def refusal? (timeline : Timeline) : Call → Option TimelineError
  | delay 0 => none
  | restart => none
  | playIq _ i q =>
    if i.length ≠ q.length then
      some (.quadratureLengthMismatch timeline.channel i.length q.length)
    else if timeline.kind ≠ .iq then some (.notIq timeline.channel)
    else timeline.overflow? i.length
  | call => timeline.overflow? call.samples

/-- The closed segments after a call. -/
def closedAfter (timeline : Timeline) : Call → List Segment
  | restart => timeline.closed ++ [timeline.current]
  | _ => timeline.closed

/-- The current segment after a call. -/
def currentAfter (timeline : Timeline) : Call → Segment
  | delay duration =>
    if 0 < duration then timeline.current.push (.delay duration) else timeline.current
  | playIq operation i q => timeline.current.pushPlay operation i q
  | measure operation => timeline.current.push (.measure operation)
  | phaseOffset phase => timeline.current.push (.phaseOffset phase)
  | resetPhase => (timeline.current.push (.phaseOffset (-timeline.phase))).push .resetPhase
  | rampToZero duration => timeline.current.push (.rampToZero duration)
  | restart => .empty timeline.kind

/-- The cursor after a call. -/
def cursorAfter (timeline : Timeline) : Call → Nat
  | restart => 0
  | call => timeline.cursor + call.samples

/-- The phase after a call. -/
def phaseAfter (timeline : Timeline) : Call → Radians
  | phaseOffset phase => timeline.phase + phase
  | resetPhase => ⟨0.0⟩
  | _ => timeline.phase

/-- The timeline after a call that it does not refuse. -/
def result (timeline : Timeline) (call : Call) : Timeline :=
  { timeline with
    closed := call.closedAfter timeline
    current := call.currentAfter timeline
    cursor := call.cursorAfter timeline
    phase := call.phaseAfter timeline }

end Call

/-! ## What a call does -/

theorem overflow?_eq_none_iff (timeline : Timeline) (samples : Nat) :
    timeline.overflow? samples = none ↔ timeline.cursor + samples ≤ maxDuration := by
  unfold overflow?
  split <;> simp [*]

theorem run_advance (timeline : Timeline) (samples : Nat) :
    (advance samples).run timeline = match timeline.overflow? samples with
      | some e => .error e timeline
      | none => .ok () { timeline with cursor := timeline.cursor + samples } := by
  by_cases h : timeline.cursor + samples ≤ maxDuration
  · simp only [EStateM.run, advance, addDurations?, overflow?, if_pos h]
  · simp only [EStateM.run, advance, addDurations?, overflow?, if_neg h]

theorem run_push (timeline : Timeline) (instruction : Instruction) :
    (push instruction).run timeline = match timeline.overflow? instruction.duration with
      | some e => .error e timeline
      | none => .ok ()
          { timeline with
            current := timeline.current.push instruction
            cursor := timeline.cursor + instruction.duration } := by
  rw [push, EStateM.run_bind, run_advance]
  cases timeline.overflow? instruction.duration <;> rfl

theorem run_playIq (timeline : Timeline) (operation : String) (i q : List Float) :
    (playIq operation i q).run timeline
      = match (Call.playIq operation i q).refusal? timeline with
        | some e => .error e timeline
        | none => .ok () ((Call.playIq operation i q).result timeline) := by
  rw [playIq, EStateM.run_bind, EStateM.run_get]
  simp only [Call.refusal?]
  split
  · rfl
  · split
    · rfl
    · rw [EStateM.run_bind, run_advance]
      cases timeline.overflow? i.length <;> rfl

theorem run_phaseOffset (timeline : Timeline) (phase : Radians) :
    (Timeline.phaseOffset phase).run timeline
      = match (Call.phaseOffset phase).refusal? timeline with
        | some e => .error e timeline
        | none => .ok () ((Call.phaseOffset phase).result timeline) := by
  rw [Timeline.phaseOffset, EStateM.run_bind, run_push]
  simp only [Call.refusal?, Call.samples, Instruction.duration]
  cases timeline.overflow? 0 <;> rfl

theorem Call.refusal?_playIq_eq_none_iff (timeline : Timeline) (operation : String)
    (i q : List Float) : (playIq operation i q).refusal? timeline = none
      ↔ i.length = q.length ∧ timeline.kind = .iq ∧ timeline.cursor + i.length ≤ maxDuration := by
  simp only [refusal?]
  split
  · next h => simp [h]
  · next hlength =>
      split
      · next h => simp [h]
      · next hkind =>
          rw [overflow?_eq_none_iff]
          simp_all

/-- The second mark of a phase reset takes no time either, so it is never refused after the
    first. -/
theorem run_resetPhase (timeline : Timeline) :
    Timeline.resetPhase.run timeline
      = match Call.resetPhase.refusal? timeline with
        | some e => .error e timeline
        | none => .ok () (Call.resetPhase.result timeline) := by
  rw [Timeline.resetPhase, EStateM.run_bind, EStateM.run_get]
  simp only [EStateM.run_bind, run_push, Call.refusal?, Call.samples, Instruction.duration]
  cases hfirst : timeline.overflow? 0 with
  | some e => rfl
  | none =>
      -- The first mark has taken no time, so the cursor is where it was.
      have hsecond : overflow?
          { timeline with
            current := timeline.current.push (.phaseOffset (-timeline.phase))
            cursor := timeline.cursor + 0 } 0 = none := by
        rw [overflow?_eq_none_iff] at hfirst ⊢
        exact hfirst
      simp only [hsecond]
      rfl

theorem run_delay (timeline : Timeline) (duration : Nat) :
    (Timeline.delay duration).run timeline
      = match (Call.delay duration).refusal? timeline with
        | some e => .error e timeline
        | none => .ok () ((Call.delay duration).result timeline) := by
  cases duration with
  | zero => rfl
  | succ n =>
      rw [Timeline.delay, if_pos (Nat.succ_pos n), run_push]
      simp only [Call.refusal?, Call.samples, Instruction.duration]
      cases timeline.overflow? (n + 1) <;> rfl

/-- A call is refused and changes nothing, or it has its result. -/
theorem run_edit (timeline : Timeline) (call : Call) :
    call.edit.run timeline = match call.refusal? timeline with
      | some e => .error e timeline
      | none => .ok () (call.result timeline) := by
  cases call with
  | delay duration => exact run_delay timeline duration
  | playIq operation i q => exact run_playIq timeline operation i q
  | measure operation =>
      rw [Call.edit, Timeline.measure, run_push]
      simp only [Call.refusal?, Call.samples, Instruction.duration]
      cases timeline.overflow? 0 <;> rfl
  | phaseOffset phase => exact run_phaseOffset timeline phase
  | resetPhase => exact run_resetPhase timeline
  | rampToZero duration =>
      rw [Call.edit, Timeline.rampToZero, run_push]
      simp only [Call.refusal?, Call.samples, Instruction.duration]
      cases timeline.overflow? duration <;> rfl
  | restart => rfl

theorem run_edit_eq_ok_iff (timeline next : Timeline) (call : Call) (u : Unit) :
    call.edit.run timeline = .ok u next
      ↔ call.refusal? timeline = none ∧ next = call.result timeline := by
  rw [run_edit]
  cases call.refusal? timeline with
  | some e => simp
  | none => simp [eq_comm]

theorem eq_of_run_edit_eq_error {timeline next : Timeline} {call : Call} {e : TimelineError}
    (h : call.edit.run timeline = .error e next) : next = timeline := by
  rw [run_edit] at h
  cases hr : call.refusal? timeline with
  | some e' =>
      rw [hr] at h
      cases h
      rfl
  | none =>
      rw [hr] at h
      cases h

/-- A law that holds of a timeline and of the result of a call holds of what the call leaves. -/
theorem stateAfter_edit {P : Timeline → Prop} {timeline : Timeline} {call : Call}
    (hrefused : P timeline) (hresult : call.refusal? timeline = none → P (call.result timeline)) :
    P (stateAfter call.edit timeline) := by
  rw [stateAfter, run_edit]
  cases hr : call.refusal? timeline with
  | some e => exact hrefused
  | none => exact hresult hr

end Timeline

end PulseTimeline
