import Mathlib.Algebra.BigOperators.Group.Finset.Basic
import Mathlib.Algebra.Order.Floor.Div
import Mathlib.Data.Set.Card
import Mathlib.Order.Interval.Finset.Nat
import Readback.Domain.IntRange

/-!
# Uniformity of ranges

Of the `2 ^ 64` draws, every value of a range gets the same number. With `s` values and `2 ^ 64 = s * q + t`, the draws
that are accepted for the distance `o` are the `x` whose product `x * s` lies in the window from `o * 2 ^ 64 + t` up to
`(o + 1) * 2 ^ 64`. The window is `s * q` long, so it holds `q` multiples of `s` wherever it starts.

- the threshold is `t` (`toNat_threshold_eq`), and a draw is accepted as the window says (`offset?_eq_some_iff`);
- a window holds `q` draws (`mem_window_iff`), and `t` draws lie in none (`card_rejected`);
- sampling takes the first draw that is accepted (`sample_eq_accept?`), and every accepted draw stands for a value of
  the range (`accept?_eq_some_iff`);
- so each value has `q` draws and `t` draws are rejected; the full range takes every draw as it is (`sample_uniform`).
-/

namespace Readback

/-! ## One draw -/

/-- The threshold, computed in words, is the remainder of `2 ^ 64`. -/
theorem toNat_threshold_eq {span : UInt64} (h : 0 < span.toNat) :
    (threshold span).toNat = UInt64.size % span.toNat := by
  have hlt : span.toNat < UInt64.size := span.toNat_lt
  rw [toNat_threshold, Nat.mod_eq_of_lt (show UInt64.size - span.toNat < UInt64.size by omega)]
  exact (Nat.mod_eq_sub_mod (Nat.le_of_lt hlt)).symm

/-- A draw is accepted for a distance if the high half of the product is the distance and the low half reaches the
threshold. -/
theorem offset?_eq_some_iff {span draw : UInt64} (h : 0 < span.toNat) {o : Nat} :
    offset? span draw = some o ↔
      UInt64.size % span.toNat ≤ draw.toNat * span.toNat % UInt64.size ∧
        draw.toNat * span.toNat / UInt64.size = o := by
  have hle : threshold span ≤ UInt64.ofNat (draw.toNat * span.toNat) ↔
      UInt64.size % span.toNat ≤ draw.toNat * span.toNat % UInt64.size := by
    rw [UInt64.le_iff_toNat_le, toNat_threshold_eq h, UInt64.toNat_ofNat']
  simp only [offset?]
  split
  · next ht => exact ⟨fun he => ⟨hle.mp ht, Option.some.inj he⟩, fun he => congrArg some he.2⟩
  · next ht =>
    constructor
    · intro he
      cases he
    · intro he
      exact absurd (hle.mpr he.1) ht

theorem offset?_eq_none_iff {span draw : UInt64} (h : 0 < span.toNat) :
    offset? span draw = none ↔ draw.toNat * span.toNat % UInt64.size < UInt64.size % span.toNat := by
  rw [← Nat.not_le]
  constructor
  · intro hn hle
    cases hn.symm.trans ((offset?_eq_some_iff h).mpr ⟨hle, rfl⟩)
  · intro hn
    cases ho : offset? span draw with
    | none => rfl
    | some o => exact absurd ((offset?_eq_some_iff h).mp ho).1 hn

/-- A search ends at a draw that is accepted. -/
theorem firstOffset_of_some {span : UInt64} (h : span ≠ 0) {d : Draws} {o : Nat} (ho : offset? span d.head = some o) :
    firstOffset span h d = (o, d.tail) := by
  rw [firstOffset]
  split
  · next o' ho' => rw [Option.some.inj (ho'.symm.trans ho)]
  · next hn => cases hn.symm.trans ho

/-- A search goes on after a draw that is rejected. -/
theorem firstOffset_of_none {span : UInt64} (h : span ≠ 0) {d : Draws} (hn : offset? span d.head = none) :
    firstOffset span h d = firstOffset span h d.tail := by
  rw [firstOffset]
  split
  · next o ho => cases hn.symm.trans ho
  · rfl

/-! ## Windows -/

section Windows

variable {s m : Nat}

/-- The first `x` whose product with `s` lies in the window of the distance `o`. -/
def windowStart (s m o : Nat) : Nat := (o * m + m % s) ⌈/⌉ s

/-- The windows end where the next ones would start, were it not for the threshold. -/
theorem window_end (s m o : Nat) : (o + 1) * m = o * m + m % s + s * (m / s) := by
  rw [Nat.add_one_mul, Nat.add_assoc, Nat.mod_add_div]

/-- **A window holds `m / s` multiples of `s`**, one after the other. -/
theorem mem_window_iff (hs : 0 < s) {o x : Nat} :
    (o * m + m % s ≤ x * s ∧ x * s < (o + 1) * m) ↔ x ∈ Finset.Ico (windowStart s m o) (windowStart s m o + m / s) := by
  have hstart (y : Nat) : windowStart s m o ≤ y ↔ o * m + m % s ≤ y * s := by
    rw [windowStart, ceilDiv_le_iff_le_mul hs, Nat.mul_comm y s]
  rw [Finset.mem_Ico, hstart, window_end s m o]
  refine and_congr_right fun _ => ?_
  rcases Nat.lt_or_ge x (m / s) with hx | hx
  · have : x * s < s * (m / s) := by rw [Nat.mul_comm]; exact Nat.mul_lt_mul_of_pos_left hx hs
    exact ⟨fun _ => by omega, fun _ => by omega⟩
  · obtain ⟨y, rfl⟩ := Nat.exists_eq_add_of_le' hx
    rw [Nat.add_mul, Nat.mul_comm (m / s) s, Nat.add_lt_add_iff_right, Nat.add_lt_add_iff_right, ← Nat.not_le,
      ← Nat.not_le, hstart]

/-- High and low half of a product say in which window it lies. -/
theorem window_iff (hm : 0 < m) {o p : Nat} : (m % s ≤ p % m ∧ p / m = o) ↔ (o * m + m % s ≤ p ∧ p < (o + 1) * m) := by
  have hp := Nat.div_add_mod p m
  have hlt := Nat.mod_lt p hm
  constructor
  · rintro ⟨hle, rfl⟩
    rw [Nat.add_one_mul, Nat.mul_comm (p / m) m]
    omega
  · rintro ⟨hlo, hhi⟩
    have ho : p / m = o := Nat.div_eq_of_lt_le (by omega) hhi
    rw [ho, Nat.mul_comm m o] at hp
    exact ⟨by omega, ho⟩

/-- The numbers below `m` in the window of a distance below `s`. -/
theorem filter_window_eq (hs : 0 < s) (hm : 0 < m) {o : Nat} (ho : o < s) :
    ((Finset.range m).filter fun x => m % s ≤ x * s % m ∧ x * s / m = o) =
      Finset.Ico (windowStart s m o) (windowStart s m o + m / s) := by
  ext x
  rw [Finset.mem_filter, Finset.mem_range, window_iff hm, mem_window_iff hs]
  refine ⟨fun h => h.2, fun h => ⟨?_, h⟩⟩
  have hlt : x * s < (o + 1) * m := ((mem_window_iff hs).mpr h).2
  have hle : (o + 1) * m ≤ s * m := Nat.mul_le_mul_right m ho
  exact Nat.lt_of_mul_lt_mul_left (a := s) (by rw [Nat.mul_comm]; exact Nat.lt_of_lt_of_le hlt hle)

theorem card_window (hs : 0 < s) (hm : 0 < m) {o : Nat} (ho : o < s) :
    ((Finset.range m).filter fun x => m % s ≤ x * s % m ∧ x * s / m = o).card = m / s := by
  rw [filter_window_eq hs hm ho, Nat.card_Ico, Nat.add_sub_cancel_left]

/-- **As many numbers as the threshold says lie in no window.** The others fill `s` windows of `m / s` each. -/
theorem card_rejected (hs : 0 < s) (hm : 0 < m) :
    ((Finset.range m).filter fun x => x * s % m < m % s).card = m % s := by
  have haccepted : ((Finset.range m).filter fun x => m % s ≤ x * s % m).card = s * (m / s) := by
    have hmaps : ∀ x ∈ (Finset.range m).filter (fun x => m % s ≤ x * s % m), x * s / m ∈ Finset.range s := by
      intro x hx
      have hx' := Finset.mem_range.mp (Finset.mem_filter.mp hx).1
      exact Finset.mem_range.mpr (Nat.div_lt_of_lt_mul (Nat.mul_lt_mul_of_pos_right hx' hs))
    rw [Finset.card_eq_sum_card_fiberwise hmaps]
    simp only [Finset.filter_filter]
    rw [Finset.sum_congr rfl fun o ho => card_window hs hm (Finset.mem_range.mp ho), Finset.sum_const,
      Finset.card_range, smul_eq_mul]
  have hsplit := Finset.card_filter_add_card_filter_not (s := Finset.range m) fun x => m % s ≤ x * s % m
  simp only [Nat.not_le] at hsplit
  rw [haccepted, Finset.card_range] at hsplit
  have hdiv := Nat.div_add_mod m s
  omega

end Windows

/-- Counting draws is counting the numbers that they stand for. -/
theorem ncard_draws (P : Nat → Prop) [DecidablePred P] :
    {draw : UInt64 | P draw.toNat}.ncard = ((Finset.range UInt64.size).filter P).card := by
  have hinj : Function.Injective UInt64.toNat := fun _ _ h => UInt64.toNat_inj.mp h
  rw [← Set.ncard_image_of_injective _ hinj, ← Set.ncard_coe_finset]
  congr 1
  ext x
  simp only [Set.mem_image, Set.mem_ofPred_eq, Finset.coe_filter, Finset.mem_range]
  constructor
  · rintro ⟨draw, hP, rfl⟩
    exact ⟨draw.toNat_lt, hP⟩
  · rintro ⟨hx, hP⟩
    refine ⟨UInt64.ofNat x, ?_, UInt64.toNat_ofNat_of_lt' hx⟩
    rw [UInt64.toNat_ofNat_of_lt' hx]
    exact hP

/-! ## Ranges -/

namespace IntRange

variable (r : IntRange)

/-- A range holds `max - min + 1` values. -/
theorem span_eq : (r.span : Int) = r.max.toInt - r.min.toInt + 1 := by
  have h := Int64.le_iff_toInt_le.mp r.min_le_max
  have hlo := r.min.le_toInt
  have hhi := r.max.toInt_lt
  simp only [Bounds.span, UInt64.size]
  omega

/-- The value that one draw gives, unless the draw is rejected. -/
def accept? (draw : UInt64) : Option Int64 :=
  if UInt64.size ≤ r.span then some draw.toInt64
  else (offset? (.ofNat r.span) draw).map fun (offset : Nat) => Int64.ofInt (r.min.toInt + offset)

variable {r}

theorem toNat_span (h : r.span < UInt64.size) : (UInt64.ofNat r.span).toNat = r.span := UInt64.toNat_ofNat_of_lt' h

theorem toNat_span_pos (h : r.span < UInt64.size) : 0 < (UInt64.ofNat r.span).toNat := by
  rw [toNat_span h]
  exact r.span_pos.1

theorem span_ne_zero (h : r.span < UInt64.size) : UInt64.ofNat r.span ≠ 0 := fun h0 => by
  have hpos := toNat_span_pos h
  rw [h0] at hpos
  exact Nat.lt_irrefl 0 hpos

theorem sample_of_some {d : Draws} {x : Int64 × Draws} (h : r.sample? d = some x) : r.sample d = x := by
  simp only [sample, h, Option.get_some]

/-- **Sampling takes the first draw that is accepted.** -/
theorem sample_eq_accept? (d : Draws) :
    r.sample d = match r.accept? d.head with
      | some v => (v, d.tail)
      | none => r.sample d.tail := by
  by_cases hfull : UInt64.size ≤ r.span
  · have hs : r.sample? d = some (d.head.toInt64, d.tail) := if_pos hfull
    rw [sample_of_some hs, accept?, if_pos hfull]
  · have hne := span_ne_zero (Nat.lt_of_not_le hfull)
    have hsample (d : Draws) : r.sample d = (Int64.ofInt (r.min.toInt + (firstOffset _ hne d).1),
        (firstOffset _ hne d).2) :=
      sample_of_some ((if_neg hfull).trans (dif_pos hne))
    rw [accept?, if_neg hfull, hsample d]
    cases ho : offset? (.ofNat r.span) d.head with
    | some o => rw [firstOffset_of_some hne ho]; rfl
    | none => rw [firstOffset_of_none hne ho]; exact (hsample d.tail).symm

/-- Moving the lower bound up by a distance below the span does not wrap. -/
theorem toInt_ofInt_add {o : Nat} (ho : o < r.span) : (Int64.ofInt (r.min.toInt + o)).toInt = r.min.toInt + o := by
  have hspan := r.span_eq
  have hlo := r.min.le_toInt
  have hhi := r.max.toInt_lt
  exact Int64.toInt_ofInt_of_le (by omega) (by omega)

theorem offset_lt {draw : UInt64} {o : Nat} (h : r.span < UInt64.size)
    (ho : offset? (.ofNat r.span) draw = some o) : o < r.span := by
  obtain ⟨-, rfl⟩ := (offset?_eq_some_iff (toNat_span_pos h)).mp ho
  rw [toNat_span h]
  exact Nat.div_lt_of_lt_mul (Nat.mul_lt_mul_of_pos_right draw.toNat_lt r.span_pos.1)

/-- An accepted draw gives the value at its distance, without wrapping. -/
theorem accept?_eq_some_iff (h : r.span < UInt64.size) {draw : UInt64} {v : Int64} :
    r.accept? draw = some v ↔ ∃ o : Nat, offset? (.ofNat r.span) draw = some o ∧ v.toInt = r.min.toInt + o := by
  rw [accept?, if_neg (Nat.not_le.mpr h), Option.map_eq_some_iff]
  refine exists_congr fun o => and_congr_right fun ho => ?_
  rw [← Int64.toInt_inj, toInt_ofInt_add (offset_lt h ho)]
  exact eq_comm

theorem accept?_eq_none_iff (h : r.span < UInt64.size) {draw : UInt64} :
    r.accept? draw = none ↔ offset? (.ofNat r.span) draw = none := by
  rw [accept?, if_neg (Nat.not_le.mpr h), Option.map_eq_none_iff]

/-- An accepted draw gives a value of the range. -/
theorem mem_of_accept? (h : r.span < UInt64.size) {draw : UInt64} {v : Int64} (hv : r.accept? draw = some v) :
    r.min ≤ v ∧ v ≤ r.max := by
  obtain ⟨o, ho, hvo⟩ := (accept?_eq_some_iff h).mp hv
  have hlt := offset_lt h ho
  have hspan := r.span_eq
  rw [Int64.le_iff_toInt_le, Int64.le_iff_toInt_le]
  omega

/-- **Every value of the range has the same number of draws.** -/
theorem ncard_accept?_eq_some (h : r.span < UInt64.size) {v : Int64} (hmin : r.min ≤ v) (hmax : v ≤ r.max) :
    {draw | r.accept? draw = some v}.ncard = UInt64.size / r.span := by
  rw [Int64.le_iff_toInt_le] at hmin hmax
  have hspan := r.span_eq
  obtain ⟨o, ho⟩ : ∃ o : Nat, v.toInt = r.min.toInt + o := ⟨(v.toInt - r.min.toInt).toNat, by omega⟩
  have hset : {draw | r.accept? draw = some v} = {draw : UInt64 |
      UInt64.size % r.span ≤ draw.toNat * r.span % UInt64.size ∧ draw.toNat * r.span / UInt64.size = o} := by
    ext draw
    simp only [Set.mem_ofPred_eq]
    rw [accept?_eq_some_iff h, ← toNat_span h, ← offset?_eq_some_iff (toNat_span_pos h), toNat_span h]
    constructor
    · rintro ⟨o', ho', hvo⟩
      rw [show o = o' by omega]
      exact ho'
    · intro hoff
      exact ⟨o, hoff, ho⟩
  rw [hset, ncard_draws fun x => UInt64.size % r.span ≤ x * r.span % UInt64.size ∧ x * r.span / UInt64.size = o]
  exact card_window r.span_pos.1 (by decide) (by omega)

/-- As many draws are rejected as the threshold says. -/
theorem ncard_accept?_eq_none (h : r.span < UInt64.size) :
    {draw | r.accept? draw = none}.ncard = UInt64.size % r.span := by
  have hset : {draw | r.accept? draw = none} =
      {draw : UInt64 | draw.toNat * r.span % UInt64.size < UInt64.size % r.span} := by
    ext draw
    simp only [Set.mem_ofPred_eq]
    rw [accept?_eq_none_iff h, offset?_eq_none_iff (toNat_span_pos h), toNat_span h]
  rw [hset, ncard_draws fun x => x * r.span % UInt64.size < UInt64.size % r.span]
  exact card_rejected r.span_pos.1 (by decide)

theorem bijective_toInt64 : Function.Bijective UInt64.toInt64 :=
  Function.bijective_iff_has_inverse.mpr ⟨Int64.toUInt64, UInt64.toUInt64_toInt64, Int64.toInt64_toUInt64⟩

/-- **Sampling is uniform.** A range that draws can number has the remainder of `2 ^ 64` as its threshold; its sampler
takes the first accepted draw, which stands for a value of the range without wrapping; every value has the same number
of draws, and the remainder is the number of draws rejected. The full range takes each draw for a value of its own. -/
theorem sample_uniform (r : IntRange) :
    (r.span : Int) = r.max.toInt - r.min.toInt + 1 ∧
    (∀ d, r.sample d = match r.accept? d.head with
      | some v => (v, d.tail)
      | none => r.sample d.tail) ∧
    (r.span < UInt64.size →
      (threshold (.ofNat r.span)).toNat = UInt64.size % r.span ∧
      (∀ draw v, r.accept? draw = some v →
        (r.min ≤ v ∧ v ≤ r.max) ∧ ∃ o : Nat, offset? (.ofNat r.span) draw = some o ∧ v.toInt = r.min.toInt + o) ∧
      (∀ v, r.min ≤ v → v ≤ r.max → {draw | r.accept? draw = some v}.ncard = UInt64.size / r.span) ∧
      {draw | r.accept? draw = none}.ncard = UInt64.size % r.span) ∧
    (r.span = UInt64.size →
      ∃ f : UInt64 → Int64, Function.Bijective f ∧ ∀ d, r.sample d = (f d.head, d.tail)) := by
  refine ⟨r.span_eq, sample_eq_accept?, fun h => ⟨?_, ?_, ?_, ncard_accept?_eq_none h⟩, fun h => ?_⟩
  · rw [toNat_threshold_eq (toNat_span_pos h), toNat_span h]
  · intro draw v hv
    exact ⟨mem_of_accept? h hv, (accept?_eq_some_iff h).mp hv⟩
  · intro v hmin hmax
    exact ncard_accept?_eq_some h hmin hmax
  · refine ⟨UInt64.toInt64, bijective_toInt64, fun d => ?_⟩
    rw [sample_eq_accept?, accept?, if_pos (Nat.le_of_eq h.symm)]

/-- The faces of a die. -/
def die : IntRange := ⟨⟨1, 6⟩, by decide⟩

/-- All that 64 bits can hold. -/
def full : IntRange := ⟨⟨Int64.minValue, Int64.maxValue⟩, by decide⟩

/-- Four draws are rejected for a die, and the others are shared out evenly; the full range rejects none. -/
theorem sample_uniform_die :
    die.span = 6 ∧ {draw | die.accept? draw = some 3}.ncard = 3074457345618258602 ∧
      {draw | die.accept? draw = none}.ncard = 4 ∧
      full.span = UInt64.size ∧
      ∃ f : UInt64 → Int64, Function.Bijective f ∧ ∀ d, full.sample d = (f d.head, d.tail) := by
  have hdie : die.span = 6 := by decide
  have hfull : full.span = UInt64.size := by decide
  obtain ⟨-, -, hcount, hnone⟩ := (sample_uniform die).2.2.1 (by rw [hdie]; decide)
  refine ⟨hdie, ?_, ?_, hfull, (sample_uniform full).2.2.2 hfull⟩
  · rw [hcount 3 (by decide) (by decide), hdie, UInt64.size]
  · rw [hnone, hdie, UInt64.size]

end IntRange

end Readback
