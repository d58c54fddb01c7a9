import PulseTimeline.Random.KeyStream

set_option autoImplicit false

/-! # Random integers

A generator is a seed's key and a position in its stream. A draw below a bound takes the high half
of a product with the bound, and draws again when the low half falls behind the last complete zone,
so that all results are equally likely. A pool keeps one generator for every seed that was used. -/

namespace PulseTimeline.Random

/-- A stream and how far it has been read. -/
structure Generator where
  key : Vector UInt32 8
  position : Nat
  deriving DecidableEq

/-- The generator of a seed before its first draw. -/
def Generator.ofSeed (seed : Int64) : Generator := ⟨Random.key seed.toUInt64, 0⟩

/-- The last low half that is accepted for a bound: the bound shifted to the full width, less one.
    The bound lies between one and 2^63. -/
def lastAccepted (bound : Nat) : Nat := bound <<< (63 - bound.log2) - 1

/-- Draw a number below a bound and return it with the next position. At least every second draw is
    accepted on average, so the attempts are never used up in practice; the last one counts. -/
def drawBelow (key : Vector UInt32 8) (bound : Nat) : Nat → Nat → Nat × Nat
  | 0, position => (((word64 key position).toNat * bound) >>> 64, position + 1)
  | attempts + 1, position =>
    let product := (word64 key position).toNat * bound
    if product % (1 <<< 64) ≤ lastAccepted bound then (product >>> 64, position + 1)
    else drawBelow key bound attempts (position + 1)

/-- Draw a number below a bound. -/
def Generator.draw (generator : Generator) (bound : Nat) : Nat × Generator :=
  let (n, position) := drawBelow generator.key bound 1000 generator.position
  (n, { generator with position })

/-- The generators of the seeds that were used. -/
structure Pool where
  generators : List (Int64 × Generator)
  deriving DecidableEq

namespace Pool

/-- The pool before any draw. -/
def empty : Pool := ⟨[]⟩

instance : Inhabited Pool := ⟨empty⟩

/-- The generator of a seed, new if the seed was not used before. -/
def generator (pool : Pool) (seed : Int64) : Generator :=
  (pool.generators.lookup seed).getD (.ofSeed seed)

/-- File the generator of a seed. -/
def put (pool : Pool) (seed : Int64) (generator : Generator) : Pool :=
  ⟨(seed, generator) :: pool.generators.filter fun entry => entry.1 != seed⟩

/-- Draw a number below a positive bound from the stream of a seed. -/
def draw (pool : Pool) (seed : Int64) (bound : Nat) : Nat × Pool :=
  let (n, generator) := (pool.generator seed).draw bound
  (n, pool.put seed generator)

end Pool

end PulseTimeline.Random
