import Readback.Random.Keystream

/-!
# Draws

The source of randomness: an endless sequence of 64-bit draws. From some place on every draw has all its bits set; up to
there the draws are free. That end makes every search for an acceptable draw stop, as long as the draw with all bits set
is acceptable. A finite list is such a source, and so is one turn of a keystream, whose block counter comes round after
`2 ^ 64` blocks.
-/

namespace Readback

/-- The draw with all bits set. -/
def allOnes : UInt64 := 0xFFFFFFFFFFFFFFFF

/-- An endless sequence of draws that are all ones from `horizon` on. -/
structure DrawSource where
  draw : Nat → UInt64
  horizon : Nat
  draw_beyond : ∀ n, horizon ≤ n → draw n = allOnes

namespace DrawSource

/-- The draws of a list, then all ones for ever. -/
def ofList (draws : List UInt64) : DrawSource where
  draw n := draws.getD n allOnes
  horizon := draws.length
  draw_beyond n h := by rw [List.getD_eq_getElem?_getD, List.getElem?_eq_none h, Option.getD_none]

/-- The draws of one turn of a seed's keystream. Behind that turn, which has `8 * 2 ^ 64` words, the cipher repeats
itself; this source does not, and gives all ones. -/
def ofSeed (seed : UInt64) : DrawSource :=
  let key := Keystream.Key.ofSeed seed
  { draw := fun n => if n < 8 * UInt64.size then Keystream.word key n else allOnes
    horizon := 8 * UInt64.size
    draw_beyond := fun _ h => if_neg (Nat.not_lt.mpr h) }

end DrawSource

/-- A place in a source: `used` draws have been taken. -/
structure Draws where
  source : DrawSource
  used : Nat

namespace Draws

/-- A source from its beginning. -/
def start (source : DrawSource) : Draws := ⟨source, 0⟩

/-- The next draw. -/
def head (d : Draws) : UInt64 := d.source.draw d.used

/-- The place after the next draw. -/
def tail (d : Draws) : Draws := ⟨d.source, d.used + 1⟩

end Draws

end Readback
