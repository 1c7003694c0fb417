import Readback.Domain.Basic
import Readback.Value

/-!
# Ranges of integers

The integers between two bounds, and how to take one of them with equal chances. A draw is multiplied by the number of
values in the range; the high half of the product is the value's distance from the lower bound. Draws whose low half
falls below a threshold are rejected, which leaves each distance the same number of draws. The draw with all bits set is
never rejected (`offset?_allOnes`), so a search for an accepted draw comes to an end.
-/

namespace Readback

/-! ## One draw -/

/-- How many draws are rejected for a range of `span` values: `2 ^ 64` modulo the span, in 64-bit arithmetic. -/
def threshold (span : UInt64) : UInt64 := (0 - span) % span

/-- The distance from the lower bound that a draw stands for, unless the draw is rejected. -/
def offset? (span draw : UInt64) : Option Nat :=
  let product := draw.toNat * span.toNat
  if threshold span ≤ UInt64.ofNat product then some (product / UInt64.size) else none

theorem toNat_threshold (span : UInt64) :
    (threshold span).toNat = (UInt64.size - span.toNat) % UInt64.size % span.toNat := by
  simp [threshold, UInt64.toNat_mod]

/-- The draw with all bits set is accepted for every range that holds a value. -/
theorem offset?_allOnes {span : UInt64} (h : span ≠ 0) : (offset? span allOnes).isSome := by
  have hpos : 0 < span.toNat := Nat.pos_of_ne_zero fun h0 => h (UInt64.toNat_inj.mp (by simpa using h0))
  have hlt : span.toNat < UInt64.size := span.toNat_lt
  have hlow : (UInt64.size - 1) * span.toNat % UInt64.size = UInt64.size - span.toNat := by
    have hsplit : (UInt64.size - 1) * span.toNat = (span.toNat - 1) * UInt64.size + (UInt64.size - span.toNat) := by
      simp only [UInt64.size] at hlt ⊢
      omega
    rw [hsplit, Nat.mul_comm, Nat.mul_add_mod, Nat.mod_eq_of_lt (by omega)]
  have hle : threshold span ≤ UInt64.ofNat ((UInt64.size - 1) * span.toNat) := by
    rw [UInt64.le_iff_toNat_le, toNat_threshold, UInt64.toNat_ofNat', hlow]
    exact Nat.le_trans (Nat.mod_le _ _) (Nat.mod_le _ _)
  have hones : allOnes.toNat = UInt64.size - 1 := rfl
  simp only [offset?, hones, if_pos hle, Option.isSome_some]

/-- A rejected draw lies before the horizon. -/
theorem used_lt_horizon {span : UInt64} (h : span ≠ 0) {d : Draws} (hd : offset? span d.head = none) :
    d.used < d.source.horizon := by
  refine Nat.lt_of_not_le fun hle => ?_
  have hones : d.head = allOnes := d.source.draw_beyond d.used hle
  exact Option.isSome_iff_ne_none.mp (offset?_allOnes h) (hones ▸ hd)

/-- The distance of the first accepted draw, and the draws after it. -/
def firstOffset (span : UInt64) (h : span ≠ 0) (d : Draws) : Nat × Draws :=
  match hd : offset? span d.head with
  | some o => (o, d.tail)
  | none =>
    have := used_lt_horizon h hd
    firstOffset span h d.tail
termination_by d.source.horizon - d.used
decreasing_by simp only [Draws.tail]; omega

/-! ## Bounds -/

/-- Two bounds, not necessarily in order. -/
structure Bounds where
  min : Int64
  max : Int64
  deriving DecidableEq, Repr

namespace Bounds

/-- The usual bounds. -/
def default : Bounds := ⟨1, 1000⟩

/-- The number of values from `min` to `max`, in 128-bit arithmetic: it wraps if the bounds are out of order. -/
def span (b : Bounds) : Nat := ((b.max.toInt - b.min.toInt + 1) % (UInt64.size * UInt64.size)).toNat

/-- The bounds as `[min, max]`. -/
def label (b : Bounds) : String :=
  "[" ++ Value.text b.min ++ ", " ++ Value.text b.max ++ "]"

/-- The bounds by name. -/
def details (b : Bounds) : String :=
  "IntRange \x7b min: " ++ Value.text b.min ++ ", max: " ++ Value.text b.max ++ " \x7d"

/-- The bounds in JSON. -/
def json (b : Bounds) : Json := .obj [("min", Value.json b.min), ("max", Value.json b.max)]

/-- Takes a value: the first draw itself if there are more values than a draw can number, else the lower bound moved up
by the first accepted distance. There is none if the span is zero, which no draw can be divided by. -/
def sample? (b : Bounds) (d : Draws) : Option (Int64 × Draws) :=
  if UInt64.size ≤ b.span then some (d.head.toInt64, d.tail)
  else if h : UInt64.ofNat b.span ≠ 0 then
    let (offset, rest) := firstOffset (UInt64.ofNat b.span) h d
    some (Int64.ofInt (b.min.toInt + offset), rest)
  else none

/-- Why bounds out of order are refused. -/
def inverted (b : Bounds) : SetupError :=
  .invalidDomain ("min (" ++ Value.text b.min ++ ") must not exceed max (" ++ Value.text b.max ++ ")")

end Bounds

/-! ## Ranges -/

/-- Bounds in order. -/
structure IntRange extends Bounds where
  min_le_max : min ≤ max

namespace IntRange

/-- A range holds a value, and no more than `2 ^ 64`. -/
theorem span_pos (r : IntRange) : 0 < r.span ∧ r.span ≤ UInt64.size := by
  have h := Int64.le_iff_toInt_le.mp r.min_le_max
  have hlo := r.min.le_toInt
  have hhi := r.max.toInt_lt
  simp only [Bounds.span, UInt64.size]
  omega

/-- A range always yields a value. -/
theorem isSome_sample? (r : IntRange) (d : Draws) : (r.sample? d).isSome := by
  have ⟨hpos, _⟩ := r.span_pos
  unfold Bounds.sample?
  split
  · rfl
  · next hlt =>
    have hne : UInt64.ofNat r.span ≠ 0 := fun h0 => by
      have := congrArg UInt64.toNat h0
      rw [UInt64.toNat_ofNat_of_lt' (by simpa using hlt)] at this
      simp at this
      omega
    simp [hne]

/-- Takes a value of the range. -/
def sample (r : IntRange) : Sampler Int64 := fun d => (r.sample? d).get (r.isSome_sample? d)

end IntRange

namespace Bounds

/-- The range between the bounds, if they are in order. -/
def check (b : Bounds) : Except SetupError IntRange :=
  if h : b.min ≤ b.max then .ok ⟨b, h⟩ else .error b.inverted

/-- The domain of the integers between the bounds, which count as equal only if they are. -/
def domain (b : Bounds) : Domain Int64 where
  label := b.label
  details := b.details
  sampler := b.check.map IntRange.sample
  equivalent v w := v == w

/-- The same domain with values counted as equal if their difference is a multiple of `modulus`. -/
def congruenceDomain (b : Bounds) (modulus : Int) : Domain Int64 :=
  { b.domain with
    label := b.label ++ " mod " ++ Numeral.intText modulus
    equivalent := fun v w => (v.toInt - w.toInt) % modulus == 0 }

end Bounds

end Readback
