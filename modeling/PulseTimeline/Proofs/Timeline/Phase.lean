import PulseTimeline.Proofs.Timeline.Representation

set_option autoImplicit false

/-! # What instructions say about the phase

A timeline keeps its phase apart from its instructions. The instructions tell the same story: along
either signal an offset turns the phase and a reset makes it zero, whatever segments lie between
them. A reset never makes the phase zero by itself; right before it stands the offset that turns the
frame back by all that has accumulated. Angles are added and negated as floating-point numbers, so
that turning back need not lead to zero exactly: no law of arithmetic is used here. -/

namespace PulseTimeline

/-- One of the two signals of an element. An element with a single signal has the same for both. -/
inductive Quadrature where
  | inPhase
  | outOfPhase
  deriving DecidableEq

/-- Where a list that has grown by one divides: at its last member, or where it could before. -/
theorem split_of_concat {α : Type} {l before after : List α} {last a : α}
    (h : l ++ [last] = before ++ a :: after) :
    before = l ∧ a = last ∨ ∃ rest, l = before ++ a :: rest := by
  rcases List.eq_nil_or_concat after with rfl | ⟨rest, final, rfl⟩
  · obtain ⟨hbefore, hlast⟩ := List.append_inj' h rfl
    exact Or.inl ⟨hbefore.symm, (List.singleton_inj.1 hlast).symm⟩
  · have hlonger : l ++ [last] = before ++ a :: rest ++ [final] := by simpa using h
    exact Or.inr ⟨rest, (List.append_inj' hlonger rfl).1⟩

/-! ## Phases along instructions -/

namespace Instruction

/-- The phase after an instruction. -/
def turn (phase : Radians) : Instruction → Radians
  | phaseOffset offset => phase + offset
  | resetPhase => ⟨0.0⟩
  | _ => phase

/-- The phase after some instructions, from the given one on. -/
def turnAll (phase : Radians) (instructions : List Instruction) : Radians :=
  instructions.foldl turn phase

@[simp] theorem turnAll_nil (phase : Radians) : turnAll phase [] = phase := rfl

@[simp] theorem turnAll_append (phase : Radians) (a b : List Instruction) :
    turnAll phase (a ++ b) = turnAll (turnAll phase a) b :=
  List.foldl_append

@[simp] theorem turnAll_singleton (phase : Radians) (instruction : Instruction) :
    turnAll phase [instruction] = turn phase instruction := rfl

/-- Directly before every reset among the instructions stands the offset that turns the frame back
    by the phase before it. -/
def TurnsBack (phase : Radians) (instructions : List Instruction) : Prop :=
  ∀ earlier later, instructions = earlier ++ .resetPhase :: later →
    ∃ before, earlier = before ++ [.phaseOffset (-turnAll phase before)]

theorem turnsBack_nil (phase : Radians) : TurnsBack phase [] := by
  intro earlier later h
  simp at h

/-- An instruction more needs a look only if it is a reset. -/
theorem TurnsBack.concat {phase : Radians} {instructions : List Instruction}
    (h : TurnsBack phase instructions) {last : Instruction}
    (hlast : last = .resetPhase →
      ∃ before, instructions = before ++ [.phaseOffset (-turnAll phase before)]) :
    TurnsBack phase (instructions ++ [last]) := by
  intro earlier later hsplit
  rcases split_of_concat hsplit with ⟨rfl, hreset⟩ | ⟨rest, hold⟩
  · exact hlast hreset.symm
  · exact h earlier rest hold

theorem TurnsBack.concat_of_ne {phase : Radians} {instructions : List Instruction}
    (h : TurnsBack phase instructions) {last : Instruction} (hlast : last ≠ .resetPhase) :
    TurnsBack phase (instructions ++ [last]) :=
  h.concat fun heq => absurd heq hlast

end Instruction

namespace Segment

/-- The instructions for one of the signals. -/
def signal (side : Quadrature) : Segment → List Instruction
  | single instructions => instructions
  | iq i q => match side with
    | .inPhase => i
    | .outOfPhase => q

@[simp] theorem signal_empty (side : Quadrature) (kind : ChannelKind) :
    (empty kind).signal side = [] := by
  cases kind <;> cases side <;> rfl

@[simp] theorem signal_push (side : Quadrature) (segment : Segment) (instruction : Instruction) :
    (segment.push instruction).signal side = segment.signal side ++ [instruction] := by
  cases segment <;> cases side <;> rfl

/-- A pulse leaves a single signal alone, and plays on either side of two. -/
theorem signal_pushPlay (side : Quadrature) (segment : Segment) (operation : String)
    (i q : List Float) :
    (segment.pushPlay operation i q).signal side = segment.signal side
      ∨ ∃ samples, (segment.pushPlay operation i q).signal side
        = segment.signal side ++ [.play operation samples] := by
  cases segment with
  | single instructions => exact Or.inl rfl
  | iq iBefore qBefore =>
      cases side with
      | inPhase => exact Or.inr ⟨i, rfl⟩
      | outOfPhase => exact Or.inr ⟨q, rfl⟩

end Segment

/-! ## Phases of timelines -/

namespace Timeline

open Instruction

/-- The phase after some segments, from zero on. -/
def phaseAlong (side : Quadrature) (segments : List Segment) : Radians :=
  turnAll ⟨0.0⟩ (segments.flatMap (Segment.signal side))

/-- What the segments of a timeline say about its phase along a signal: what it is, and that every
    reset follows the offset that turns the frame back. -/
structure Accounts (side : Quadrature) (timeline : Timeline) : Prop where
  phase : timeline.phase = phaseAlong side timeline.segments
  resets : ∀ before segment after, timeline.segments = before ++ segment :: after →
    TurnsBack (phaseAlong side before) (segment.signal side)

variable {side : Quadrature} {timeline : Timeline}

theorem phaseAlong_concat (side : Quadrature) (segments : List Segment) (last : Segment) :
    phaseAlong side (segments ++ [last])
      = turnAll (phaseAlong side segments) (last.signal side) := by
  simp [phaseAlong, List.flatMap_append]

theorem accounts_new (side : Quadrature) (channel : String) (kind : ChannelKind) :
    (new channel kind).Accounts side where
  phase := by simp [new, segments, phaseAlong]
  resets := by
    intro before segment after hsplit
    have hempty : segment = .empty kind := by
      have hmem : segment ∈ (new channel kind).segments := by simp [hsplit]
      simpa [segments, new] using hmem
    rw [hempty, Segment.signal_empty]
    exact turnsBack_nil _

/-- A timeline accounts for its phase if its closed segments say where the current one begins, and
    the current one says where it ends. -/
theorem accounts_of_current
    (hclosed : ∀ before segment after, timeline.closed = before ++ segment :: after →
      TurnsBack (phaseAlong side before) (segment.signal side))
    (hcurrent : TurnsBack (phaseAlong side timeline.closed) (timeline.current.signal side))
    (hphase : timeline.phase
      = turnAll (phaseAlong side timeline.closed) (timeline.current.signal side)) :
    timeline.Accounts side where
  phase := by rw [hphase, segments, phaseAlong_concat]
  resets := by
    intro before segment after hsplit
    rcases split_of_concat hsplit with ⟨rfl, rfl⟩ | ⟨rest, hold⟩
    · exact hcurrent
    · exact hclosed before segment rest hold

theorem Accounts.closed (h : timeline.Accounts side) (before : List Segment) (segment : Segment)
    (after : List Segment) (hsplit : timeline.closed = before ++ segment :: after) :
    TurnsBack (phaseAlong side before) (segment.signal side) := by
  refine h.resets before segment (after ++ [timeline.current]) ?_
  rw [segments, hsplit, List.append_assoc, List.cons_append]

theorem Accounts.current (h : timeline.Accounts side) :
    TurnsBack (phaseAlong side timeline.closed) (timeline.current.signal side) :=
  h.resets timeline.closed timeline.current [] rfl

theorem Accounts.phase_eq (h : timeline.Accounts side) : timeline.phase
    = turnAll (phaseAlong side timeline.closed) (timeline.current.signal side) := by
  rw [h.phase, segments, phaseAlong_concat]

/-! ## Phases and calls -/

/-- What a call appends to the current segment leads to the phase after the call. -/
theorem Accounts.phaseAfter (h : timeline.Accounts side) {call : Call} (hcall : call ≠ .restart) :
    call.phaseAfter timeline = turnAll (phaseAlong side timeline.closed)
      ((call.currentAfter timeline).signal side) := by
  have hphase := h.phase_eq
  cases call with
  | delay duration =>
      simp only [Call.currentAfter]
      split
      · simp [Call.phaseAfter, hphase, turn]
      · exact hphase
  | playIq operation i q =>
      rcases timeline.current.signal_pushPlay side operation i q with hsame | ⟨samples, hplayed⟩
      · rw [Call.currentAfter, hsame]
        exact hphase
      · rw [Call.currentAfter, hplayed, turnAll_append]
        exact hphase
  | resetPhase =>
      rw [Call.currentAfter, Segment.signal_push, turnAll_append, turnAll_singleton]
      rfl
  | restart => exact absurd rfl hcall
  | _ => simp [Call.currentAfter, Call.phaseAfter, hphase, turn]

/-- The only call that appends a reset appends the offset first. -/
theorem Accounts.currentAfter (h : timeline.Accounts side) (call : Call)
    (hcall : call ≠ .restart) : TurnsBack (phaseAlong side timeline.closed)
      ((call.currentAfter timeline).signal side) := by
  have hcurrent := h.current
  cases call with
  | delay duration =>
      simp only [Call.currentAfter]
      split
      · rw [Segment.signal_push]
        exact hcurrent.concat_of_ne (by simp)
      · exact hcurrent
  | playIq operation i q =>
      rcases timeline.current.signal_pushPlay side operation i q with hsame | ⟨samples, hplayed⟩
      · rw [Call.currentAfter, hsame]
        exact hcurrent
      · rw [Call.currentAfter, hplayed]
        exact hcurrent.concat_of_ne (by simp)
  | resetPhase =>
      rw [Call.currentAfter, Segment.signal_push, Segment.signal_push]
      have hoffset : TurnsBack (phaseAlong side timeline.closed)
          (timeline.current.signal side ++ [.phaseOffset (-timeline.phase)]) :=
        hcurrent.concat_of_ne (by simp)
      refine hoffset.concat fun _ => ⟨timeline.current.signal side, ?_⟩
      rw [h.phase_eq]
  | restart => exact absurd rfl hcall
  | _ =>
      rw [Call.currentAfter, Segment.signal_push]
      exact hcurrent.concat_of_ne (by simp)

theorem Accounts.result (h : timeline.Accounts side) (call : Call) :
    (call.result timeline).Accounts side := by
  by_cases hcall : call = .restart
  · -- A restart closes the current segment as it is and keeps the phase.
    subst hcall
    refine accounts_of_current h.resets ?_ ?_
    · show TurnsBack _ ((Segment.empty timeline.kind).signal side)
      rw [Segment.signal_empty]
      exact turnsBack_nil _
    · show timeline.phase = turnAll _ ((Segment.empty timeline.kind).signal side)
      rw [Segment.signal_empty]
      exact h.phase
  · have hclosed : (call.result timeline).closed = timeline.closed := by
      cases call with
      | restart => exact absurd rfl hcall
      | _ => rfl
    refine accounts_of_current ?_ ?_ ?_
    · rw [hclosed]
      exact h.closed
    · rw [hclosed]
      exact h.currentAfter call hcall
    · rw [hclosed]
      exact h.phaseAfter hcall

/-- Any calls on a new timeline leave one that accounts for its phase along either signal. -/
theorem Reached.accounts {channel : String} {kind : ChannelKind}
    (h : Reached (new channel kind) timeline) (side : Quadrature) : timeline.Accounts side :=
  h.invariant (fun _ call haccounts _ => haccounts.result call) (accounts_new side channel kind)

end Timeline

end PulseTimeline
