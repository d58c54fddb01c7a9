import PulseTimeline.Random.Pool
import PulseTimeline.Run.Error

set_option autoImplicit false

/-! # Library functions

The functions that expressions can call. The library that a call names does not matter. -/

namespace PulseTimeline

/-- A function that runs know. -/
inductive Builtin where
  | mulFixedByInt
  | randInt
  deriving DecidableEq

namespace Builtin

/-- The name of a function in calls. -/
def name : Builtin → String
  | mulFixedByInt => "mul_fixed_by_int"
  | randInt => "rand_int"

/-- The function of the given name. -/
def ofName? (name : String) : Option Builtin :=
  [mulFixedByInt, randInt].find? fun builtin => builtin.name == name

/-- How many arguments a function takes. -/
def arity : Builtin → Nat
  | mulFixedByInt => 2
  | randInt => 2

end Builtin

namespace Random

/-- Draw an integer from zero to below `max` from the stream of a seed. Without a positive bound
    nothing is drawn. -/
def randInt (seed max : Int64) : EStateM RunError Pool Int64 := fun pool =>
  if max < 1 then .error (.randomBoundTooSmall max) pool
  else
    let (n, pool) := pool.draw seed max.toInt.toNat
    .ok (Int64.ofNat n) pool

end Random

/-- Call a function with the values of its arguments. -/
def callFunction (library name : String) (arguments : List Value) :
    EStateM RunError Random.Pool Value :=
  match Builtin.ofName? name, arguments with
  | none, _ => throw (.unimplementedFunction library name)
  | some .mulFixedByInt, [fixed, int] =>
    return .real (fixed.toReal * Binary64.floatOfInt int.toInt.toInt)
  | some .randInt, [seed, max] => return .int (← Random.randInt seed.toInt max.toInt)
  | some builtin, _ =>
    throw (.wrongArgumentCount builtin.name builtin.arity arguments.length)

end PulseTimeline
