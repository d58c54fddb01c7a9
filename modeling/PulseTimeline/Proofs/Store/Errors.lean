import PulseTimeline.Proofs.Store.Access
import PulseTimeline.Proofs.Timeline.Calls
import PulseTimeline.Run.Error

set_option autoImplicit false

/-! # What timelines raise

Some errors of timelines never arise in a run because of how runs use timelines: the quadratures of
a pulse are equally long, and no timeline is made from a record. What is left is `IsPossible`, for
timelines and for runs; the operations of stores raise only such errors. -/

namespace PulseTimeline

/-- The errors that timelines raise in a run. -/
def TimelineError.IsPossible : TimelineError → Prop
  | quadratureLengthMismatch .. => False
  | invalid .. => False
  | _ => True

/-- The errors that a run may end in if its literals can be read. Timelines are at fault only by
    their duration. -/
def RunError.IsPossible : RunError → Prop
  | arrayTooLarge .. => False
  | literal _ => False
  | timeline (.durationOverflow _) => True
  | timeline _ => False
  | _ => True

theorem RunError.isPossible_ofTimeline {e : TimelineError} (h : e.IsPossible) :
    (RunError.ofTimeline e).IsPossible := by
  cases e with
  | unknownChannel => trivial
  | notIq => trivial
  | durationOverflow => trivial
  | quadratureLengthMismatch => exact h
  | invalid => exact h

/-! ## Timelines -/

namespace Timeline

/-- Both quadratures of a pulse are equally long. -/
def Call.IsBalanced : Call → Prop
  | playIq _ i q => i.length = q.length
  | _ => True

theorem overflow?_isPossible {timeline : Timeline} {samples : Nat} {e : TimelineError}
    (h : timeline.overflow? samples = some e) : e.IsPossible := by
  unfold overflow? at h
  split at h
  · cases h
  · cases h
    trivial

theorem Call.refusal?_isPossible {timeline : Timeline} {call : Call} {e : TimelineError}
    (hbalanced : call.IsBalanced) (h : call.refusal? timeline = some e) : e.IsPossible := by
  unfold refusal? at h
  split at h
  · cases h
  · cases h
  · next operation i q =>
      have hlength : i.length = q.length := hbalanced
      rw [if_neg (fun hne => hne hlength)] at h
      split at h
      · cases h
        trivial
      · exact overflow?_isPossible h
  · exact overflow?_isPossible h

theorem raisesOnly_edit {call : Call} (hbalanced : call.IsBalanced) :
    RaisesOnly TimelineError.IsPossible call.edit := by
  intro timeline next e hrun
  rw [run_edit] at hrun
  split at hrun
  · next hrefusal =>
      cases hrun
      exact Call.refusal?_isPossible hbalanced hrefusal
  · cases hrun

theorem raisesOnly_padTo (time : Nat) : RaisesOnly TimelineError.IsPossible (padTo time) :=
  raisesOnly_bind raisesOnly_get fun timeline =>
    @raisesOnly_edit (.delay (time - timeline.cursor)) trivial

end Timeline

/-! ## Stores -/

namespace Store

variable {hardware : Hardware}

theorem raisesOnly_demand (channel : String) :
    RaisesOnly TimelineError.IsPossible (demand hardware channel) := by
  intro store next e hrun
  rw [run_demand] at hrun
  split at hrun
  · cases hrun
  · cases hrun
    trivial

theorem raisesOnly_edit {change : Timeline.Edit} (channel : String)
    (h : RaisesOnly TimelineError.IsPossible change) :
    RaisesOnly TimelineError.IsPossible (edit hardware channel change) := by
  refine raisesOnly_bind (raisesOnly_demand channel) fun timeline store next e hrun => ?_
  simp only [EStateM.run] at hrun
  split at hrun
  · cases hrun
  · next hchange =>
      cases hrun
      exact h timeline _ _ hchange

theorem raisesOnly_editAll {change : Timeline.Edit} (names : List String)
    (h : RaisesOnly TimelineError.IsPossible change) :
    RaisesOnly TimelineError.IsPossible (editAll hardware change names) := by
  induction names with
  | nil => exact raisesOnly_pure ()
  | cons name rest ih => exact raisesOnly_bind (raisesOnly_edit name h) fun _ => ih

theorem raisesOnly_latest (time : Nat) (names : List String) :
    RaisesOnly TimelineError.IsPossible (latest hardware time names) := by
  induction names generalizing time with
  | nil => exact raisesOnly_pure time
  | cons name rest ih =>
      exact raisesOnly_bind (raisesOnly_demand name) fun timeline => ih (max time timeline.cursor)

theorem raisesOnly_align (names : List String) :
    RaisesOnly TimelineError.IsPossible (align hardware names) := by
  refine raisesOnly_bind raisesOnly_get fun store => ?_
  refine raisesOnly_bind (raisesOnly_latest 0 _) fun time => ?_
  exact raisesOnly_editAll _ (Timeline.raisesOnly_padTo time)

theorem raisesOnly_restartSharing (setup : Setup) (channel : String) :
    RaisesOnly TimelineError.IsPossible (restartSharing setup channel) := by
  refine raisesOnly_bind (raisesOnly_align _) fun _ => ?_
  exact raisesOnly_editAll _ (@Timeline.raisesOnly_edit .restart trivial)

end Store

end PulseTimeline
