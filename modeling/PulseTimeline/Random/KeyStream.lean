set_option autoImplicit false

/-! # Pseudo-random words

A stream of words from a seed: ChaCha with twelve rounds, a key spread from the seed by a
congruential generator, and the number of the block as the counter. The word at a position is a
function of the seed and the position. -/

namespace PulseTimeline.Random

/-- The sixteen words that a block is computed on. -/
abbrev Block := Vector UInt32 16

/-- Rotate a word to the left. -/
def rotateLeft (x : UInt32) (n : UInt32) : UInt32 := (x <<< n) ||| (x >>> (32 - n))

/-- One step of the congruential generator. -/
def nextState (s : UInt64) : UInt64 := s * 6364136223846793005 + 11634580027462260723

/-- The word that a state of the congruential generator yields. -/
def outputWord (s : UInt64) : UInt32 :=
  let x := (((s >>> 18) ^^^ s) >>> 27).toUInt32
  let n := (s >>> 59).toUInt32
  (x >>> n) ||| (x <<< ((32 - n) % 32))

/-- The key of a seed: eight words, one from each of the next states. -/
def key (seed : UInt64) : Vector UInt32 8 :=
  Vector.ofFn fun k => outputWord (Nat.repeat nextState (k.val + 1) seed)

/-- Mix four words of a block. -/
def quarterRound (v : Block) (a b c d : Fin 16) : Block :=
  let v := v.set a (v[a] + v[b])
  let v := v.set d (rotateLeft (v[d] ^^^ v[a]) 16)
  let v := v.set c (v[c] + v[d])
  let v := v.set b (rotateLeft (v[b] ^^^ v[c]) 12)
  let v := v.set a (v[a] + v[b])
  let v := v.set d (rotateLeft (v[d] ^^^ v[a]) 8)
  let v := v.set c (v[c] + v[d])
  v.set b (rotateLeft (v[b] ^^^ v[c]) 7)

/-- Mix the columns of a block and then its diagonals. -/
def doubleRound (v : Block) : Block :=
  let v := quarterRound v 0 4 8 12
  let v := quarterRound v 1 5 9 13
  let v := quarterRound v 2 6 10 14
  let v := quarterRound v 3 7 11 15
  let v := quarterRound v 0 5 10 15
  let v := quarterRound v 1 6 11 12
  let v := quarterRound v 2 7 8 13
  quarterRound v 3 4 9 14

/-- The block before it is mixed: constants, key, counter and two zero words. -/
def initialBlock (key : Vector UInt32 8) (counter : UInt64) : Block :=
  #v[0x61707865, 0x3320646e, 0x79622d32, 0x6b206574,
    key[0], key[1], key[2], key[3], key[4], key[5], key[6], key[7],
    counter.toUInt32, (counter >>> 32).toUInt32, 0, 0]

/-- A block of the stream. -/
def block (key : Vector UInt32 8) (counter : UInt64) : Block :=
  let start := initialBlock key counter
  Vector.zipWith (· + ·) (Nat.repeat doubleRound 6 start) start

/-- The draw of sixty-four bits at a position of the stream, its low half first. -/
def word64 (key : Vector UInt32 8) (position : Nat) : UInt64 :=
  let words := block key (UInt64.ofNat (position / 8))
  let low := words[2 * (position % 8)]
  let high := words[2 * (position % 8) + 1]
  low.toUInt64 ||| (high.toUInt64 <<< 32)

end PulseTimeline.Random
