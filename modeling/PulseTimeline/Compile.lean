import PulseTimeline.Category
import PulseTimeline.RawTree.Program
import PulseTimeline.Run.Execute

set_option autoImplicit false

/-! # Compiling

From a raw tree to timelines in one step. -/

namespace PulseTimeline

/-- Why a raw tree has no timelines: it is no program, or the program cannot be run. -/
inductive CompileError where
  | tree (error : TreeError)
  | run (error : RunError)
  deriving DecidableEq

namespace CompileError

/-- The wording of the error. -/
def message : CompileError → String
  | tree error => error.message
  | run error => error.message

/-- The category of the error. -/
def category : CompileError → ErrorCategory
  | tree error => error.category
  | run error => error.category

end CompileError

/-- Build the program of a raw tree and run it. -/
def compile (tree : Json) (setup : Setup) : Except CompileError Store := do
  let program ← (Program.ofTree tree).mapError .tree
  let outcome ← (program.run setup).mapError .run
  return outcome.timelines

end PulseTimeline
