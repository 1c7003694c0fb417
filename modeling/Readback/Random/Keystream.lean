/-!
# The keystream

The ChaCha stream cipher with twenty rounds, as a function from a key and a position to a 64-bit word. The cipher turns
a block number into sixteen 32-bit words; a 64-bit word is made of two neighbours, the low one first. The key is spread
from a 64-bit seed by a permuted congruential generator, one 32-bit word at a time.
-/

namespace Readback.Keystream

/-- The sixteen words of a block. -/
abbrev Block := Vector UInt32 16

/-- The bits of a word turned to the left by `n`. -/
def rotateLeft (x : UInt32) (n : UInt32) : UInt32 := (x <<< n) ||| (x >>> (32 - n))

/-- Mixes four words of a block. -/
def quarterRound (x : Block) (a b c d : Fin 16) : Block :=
  let x := x.set a (x[a] + x[b])
  let x := x.set d (rotateLeft (x[d] ^^^ x[a]) 16)
  let x := x.set c (x[c] + x[d])
  let x := x.set b (rotateLeft (x[b] ^^^ x[c]) 12)
  let x := x.set a (x[a] + x[b])
  let x := x.set d (rotateLeft (x[d] ^^^ x[a]) 8)
  let x := x.set c (x[c] + x[d])
  x.set b (rotateLeft (x[b] ^^^ x[c]) 7)

/-- A round over the columns and a round over the diagonals. -/
def doubleRound (x : Block) : Block :=
  let x := quarterRound x 0 4 8 12
  let x := quarterRound x 1 5 9 13
  let x := quarterRound x 2 6 10 14
  let x := quarterRound x 3 7 11 15
  let x := quarterRound x 0 5 10 15
  let x := quarterRound x 1 6 11 12
  let x := quarterRound x 2 7 8 13
  quarterRound x 3 4 9 14

/-- The eight words of a key. -/
abbrev Key := Vector UInt32 8

/-- The block before mixing: four constants, the key, the block number and an empty stream number. -/
def initial (key : Key) (number : UInt64) : Block :=
  #v[0x61707865, 0x3320646e, 0x79622d32, 0x6b206574, key[0], key[1], key[2], key[3], key[4], key[5], key[6], key[7],
    number.toUInt32, (number >>> 32).toUInt32, 0, 0]

/-- The block of a number: ten double rounds, added to what they started from. -/
def block (key : Key) (number : UInt64) : Block :=
  let start := initial key number
  Vector.zipWith (· + ·) (Nat.repeat doubleRound 10 start) start

/-- The 64-bit word at a position: eight of them to a block. -/
def word (key : Key) (position : Nat) : UInt64 :=
  let b := block key (UInt64.ofNat (position / 8))
  let i := position % 8
  have : i < 8 := Nat.mod_lt _ (by decide)
  b[2 * i].toUInt64 ||| (b[2 * i + 1].toUInt64 <<< 32)

/-! ## Keys -/

/-- The next state of the congruential generator that spreads a seed. -/
def spread (state : UInt64) : UInt64 := state * 6364136223846793005 + 11634580027462260723

/-- The word that a state of that generator stands for. -/
def permute (state : UInt64) : UInt32 :=
  let x := (((state >>> 18) ^^^ state) >>> 27).toUInt32
  let turn := (state >>> 59).toUInt32
  (x >>> turn) ||| (x <<< ((32 - turn) % 32))

/-- The key of a seed. -/
def Key.ofSeed (seed : UInt64) : Key := Vector.ofFn fun i => permute (Nat.repeat spread (i + 1) seed)

end Readback.Keystream
