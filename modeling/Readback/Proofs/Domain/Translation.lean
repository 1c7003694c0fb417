import Readback.Proofs.Domain.Safety

/-!
# Moving a range moves its values

Which draws a range accepts, and at which distance from the lower bound, depends on the number of its values alone. So
a range moved by `c` takes its values from the same draws as before, and each value is moved by `c`.

- a range and the same range moved have the same span (`Moved.span_eq`), accept the same draws (`Moved.accept?`) and
  take the same draws for a sample (`Moved.takes`, `Moved.sample`);
- generators of the two ranges that stand at the same place stay together (`Moved.take`);
- the same holds of endless sequences of draws, where a sample is taken at all (`Moved.samplesFrom`);
- **`generate_moved`**: whatever the bounds, up to the ends of what 64 bits hold.
-/

namespace Readback

/-- The bounds moved by `c`. -/
def Bounds.move (b : Bounds) (c : Int) : Bounds := ⟨.ofInt (b.min.toInt + c), .ofInt (b.max.toInt + c)⟩

namespace IntRange

/-- The second range is the first moved by `c`, and nothing wraps. -/
structure Moved (c : Int) (r r' : IntRange) : Prop where
  min_eq : r'.min.toInt = r.min.toInt + c
  max_eq : r'.max.toInt = r.max.toInt + c

/-- Bounds whose moved ends are still integers of 64 bits are those of a range. -/
theorem exists_moved {r : IntRange} {c : Int} (hmin : Int64.minValue.toInt ≤ r.min.toInt + c)
    (hmax : r.max.toInt + c ≤ Int64.maxValue.toInt) :
    ∃ r' : IntRange, r'.toBounds = r.toBounds.move c ∧ Moved c r r' := by
  have hle := Int64.le_iff_toInt_le.mp r.min_le_max
  have hlo : Int64.minValue.toInt = -9223372036854775808 := rfl
  have hhi : Int64.maxValue.toInt = 9223372036854775807 := rfl
  have hmin' : (Int64.ofInt (r.min.toInt + c)).toInt = r.min.toInt + c :=
    Int64.toInt_ofInt_of_le (by omega) (by omega)
  have hmax' : (Int64.ofInt (r.max.toInt + c)).toInt = r.max.toInt + c :=
    Int64.toInt_ofInt_of_le (by omega) (by omega)
  refine ⟨⟨r.toBounds.move c, ?_⟩, rfl, hmin', hmax'⟩
  rw [Int64.le_iff_toInt_le]
  simp only [Bounds.move, hmin', hmax']
  omega

namespace Moved

variable {r r' : IntRange} {c : Int} (h : Moved c r r')

include h

/-! ## One sample -/

/-- Moving a range does not change the number of its values. -/
theorem span_eq : r'.span = r.span := by
  have hspan := r.span_eq
  have hspan' := r'.span_eq
  have hmin := h.min_eq
  have hmax := h.max_eq
  omega

/-- The full range cannot be moved. -/
theorem eq_zero_of_full (hfull : r.span = UInt64.size) : c = 0 := by
  have hspan := r.span_eq
  have hmin := h.min_eq
  have hmax := h.max_eq
  have hlo := r.min.le_toInt
  have hhi := r.max.toInt_lt
  have hlo' := r'.min.le_toInt
  have hhi' := r'.max.toInt_lt
  simp only [UInt64.size] at hfull
  omega

/-- **The same draws are accepted**, and the values that they stand for are moved. -/
theorem accept? (draw : UInt64) : (r'.accept? draw).map Int64.toInt = (r.accept? draw).map (·.toInt + c) := by
  rcases Nat.lt_or_eq_of_le r.span_pos.2 with hlt | hfull
  · have hlt' : r'.span < UInt64.size := by rw [h.span_eq]; exact hlt
    cases ho : offset? (.ofNat r.span) draw with
    | none =>
      rw [(accept?_eq_none_iff hlt).mpr ho, (accept?_eq_none_iff hlt').mpr (by rw [h.span_eq]; exact ho)]
      rfl
    | some o =>
      have hv : r.accept? draw = some (Int64.ofInt (r.min.toInt + o)) :=
        (accept?_eq_some_iff hlt).mpr ⟨o, ho, toInt_ofInt_add (offset_lt hlt ho)⟩
      rw [← h.span_eq] at ho
      have hv' : r'.accept? draw = some (Int64.ofInt (r'.min.toInt + o)) :=
        (accept?_eq_some_iff hlt').mpr ⟨o, ho, toInt_ofInt_add (offset_lt hlt' ho)⟩
      have ho' := offset_lt hlt' ho
      rw [hv, hv', Option.map_some, Option.map_some, toInt_ofInt_add ho', toInt_ofInt_add (h.span_eq ▸ ho'), h.min_eq]
      congr 1
      omega
  · -- The full range takes a draw as it is, whatever its lower bound; but it has no room to be moved.
    have hc := h.eq_zero_of_full hfull
    rw [accept?_of_full hfull, accept?_of_full (h.span_eq.trans hfull), hc]
    simp

/-- A sample of the range is a sample of the moved range from the same draws. -/
theorem takes {d rest : Draws} {v : Int64} (ht : r.Takes d v rest) :
    ∃ v', v'.toInt = v.toInt + c ∧ r'.Takes d v' rest := by
  have haccepted := h.accept? (d.source.draw (rest.used - 1))
  rw [ht.accepted, Option.map_some, Option.map_eq_some_iff] at haccepted
  obtain ⟨v', hv', hmoved⟩ := haccepted
  refine ⟨v', hmoved, ht.source, ht.used_lt, ?_, hv'⟩
  intro k hlo hhi
  have hrejected := h.accept? (d.source.draw k)
  rwa [ht.rejected k hlo hhi, Option.map_none, Option.map_eq_none_iff] at hrejected

/-- **A sample of the moved range is the sample moved**, and leaves the same draws. -/
theorem sample (d : Draws) :
    (r'.sample d).1.toInt = (r.sample d).1.toInt + c ∧ (r'.sample d).2 = (r.sample d).2 := by
  obtain ⟨v', hmoved, ht⟩ := h.takes (r.takes_sample d)
  obtain ⟨hv, hrest⟩ := (r'.takes_sample d).unique ht
  rw [hv, hrest]
  exact ⟨hmoved, rfl⟩

/-! ## Sample after sample -/

/-- **Generators of a range and of the range moved stay together** from a common place on. -/
theorem take (g g' : Generator Int64) (hg : g.sampler = r.sample) (hg' : g'.sampler = r'.sample)
    (hdraws : g'.draws = g.draws) (k : Nat) :
    (g'.take k).1.map Int64.toInt = (g.take k).1.map (·.toInt + c) ∧ (g'.take k).2.draws = (g.take k).2.draws := by
  induction k generalizing g g' with
  | zero => exact ⟨rfl, hdraws⟩
  | succ k ih =>
    obtain ⟨hvalue, hrest⟩ := h.sample g.draws
    have hnext : g'.next.1.toInt = g.next.1.toInt + c := by
      simp only [Generator.next, hg, hg', hdraws]
      exact hvalue
    have hnext' : g'.next.2.draws = g.next.2.draws := by
      simp only [Generator.next, hg, hg', hdraws]
      exact hrest
    obtain ⟨hvalues, hlast⟩ := ih g.next.2 g'.next.2 hg hg' hnext'
    refine ⟨?_, hlast⟩
    simp only [Generator.take, List.map_cons]
    rw [hnext, hvalues]

end Moved

/-! ## Endless sequences without a horizon -/

/-- Sampling from the place `i` of any endless sequence of draws gives `v` and goes on at the place `j`: so it does with
every source that has the same draws up to there. A sequence in which no draw is accepted has no such place. -/
def SamplesFrom (r : IntRange) (stream : Nat → UInt64) (i : Nat) (v : Int64) (j : Nat) : Prop :=
  ∀ source : DrawSource, (∀ k < j, source.draw k = stream k) → r.sample ⟨source, i⟩ = (v, ⟨source, j⟩)

/-- The first draws of a sequence can be had from a source. -/
theorem exists_source (stream : Nat → UInt64) (j : Nat) : ∃ source : DrawSource, ∀ k < j, source.draw k = stream k := by
  refine ⟨.ofList ((List.range j).map stream), fun k hk => ?_⟩
  simp [DrawSource.ofList, List.getElem?_map, List.getElem?_range hk]

theorem Moved.symm {r r' : IntRange} {c : Int} (h : Moved c r r') : Moved (-c) r' r := by
  have hmin := h.min_eq
  have hmax := h.max_eq
  exact ⟨by omega, by omega⟩

theorem Moved.samplesFrom {r r' : IntRange} {c : Int} (h : Moved c r r') {stream : Nat → UInt64} {i j : Nat} {v : Int64}
    (hs : r.SamplesFrom stream i v j) : ∃ v', v'.toInt = v.toInt + c ∧ r'.SamplesFrom stream i v' j := by
  obtain ⟨source, hsource⟩ := exists_source stream j
  have hvalue := (h.sample ⟨source, i⟩).1
  rw [hs source hsource] at hvalue
  refine ⟨_, hvalue, fun source' hsource' => ?_⟩
  obtain ⟨hvalue', hrest'⟩ := h.sample ⟨source', i⟩
  rw [hs source' hsource'] at hvalue' hrest'
  exact Prod.ext (Int64.toInt_inj.mp (hvalue'.trans hvalue.symm)) hrest'

/-- **Moving a range moves its values and nothing else.** For every range and every `c` that leaves both bounds among
the integers of 64 bits, a sample of the moved range is the sample moved by `c`, without wrapping, and uses the same
draws, whatever the draws are; and from every seed both ranges have a generator, of which the first `k` values are the
same but for `c`, with the same number of draws used. -/
theorem generate_moved (r : IntRange) (c : Int) (hmin : Int64.minValue.toInt ≤ r.min.toInt + c)
    (hmax : r.max.toInt + c ≤ Int64.maxValue.toInt) :
    ∃ r' : IntRange, r'.toBounds = r.toBounds.move c ∧
      (r'.min.toInt = r.min.toInt + c ∧ r'.max.toInt = r.max.toInt + c) ∧
      (∀ d, (r'.sample d).1.toInt = (r.sample d).1.toInt + c ∧ (r'.sample d).2 = (r.sample d).2) ∧
      (∀ stream i j v', r'.SamplesFrom stream i v' j ↔ ∃ v, v'.toInt = v.toInt + c ∧ r.SamplesFrom stream i v j) ∧
      ∀ seed, ∃ g g', Generator.new r.domain seed = .ok g ∧ Generator.new (r.toBounds.move c).domain seed = .ok g' ∧
        ∀ k, (g'.take k).1.map Int64.toInt = (g.take k).1.map (·.toInt + c) ∧
          (g'.take k).2.draws.used = (g.take k).2.draws.used := by
  obtain ⟨r', hbounds, h⟩ := exists_moved hmin hmax
  refine ⟨r', hbounds, ⟨h.min_eq, h.max_eq⟩, h.sample, ?_, ?_⟩
  · intro stream i j v'
    constructor
    · intro hs
      obtain ⟨v, hv, hs'⟩ := h.symm.samplesFrom hs
      exact ⟨v, by omega, hs'⟩
    · rintro ⟨v, hv, hs⟩
      obtain ⟨w, hw, hs'⟩ := h.samplesFrom hs
      rwa [Int64.toInt_inj.mp (hv.trans hw.symm)]
  · intro seed
    have hle' : (r.toBounds.move c).min ≤ (r.toBounds.move c).max := hbounds ▸ r'.min_le_max
    have hrange : IntRange.mk (r.toBounds.move c) hle' = r' := by
      cases r'
      cases hbounds
      rfl
    refine ⟨_, _, Bounds.new_of_le r.min_le_max seed, Bounds.new_of_le hle' seed, fun k => ?_⟩
    rw [hrange]
    obtain ⟨hvalues, hdraws⟩ := h.take (r.generator seed (.ofSeed seed.value))
      (r'.generator seed (.ofSeed seed.value)) rfl rfl rfl k
    exact ⟨hvalues, congrArg Draws.used hdraws⟩

/-- The six lowest integers of 64 bits. -/
def lowest : IntRange := ⟨⟨Int64.minValue, -9223372036854775803⟩, by decide⟩

/-- The six lowest integers moved to the six highest. -/
theorem generate_moved_lowest :
    lowest.toBounds.move 18446744073709551610 = ⟨9223372036854775802, Int64.maxValue⟩ ∧
    ∃ g g', Generator.new lowest.domain ⟨7⟩ = .ok g ∧
      Generator.new (Bounds.mk 9223372036854775802 Int64.maxValue).domain ⟨7⟩ = .ok g' ∧
      ∀ k, (g'.take k).1.map Int64.toInt = (g.take k).1.map (·.toInt + 18446744073709551610) ∧
        (g'.take k).2.draws.used = (g.take k).2.draws.used := by
  have hbounds : lowest.toBounds.move 18446744073709551610 = ⟨9223372036854775802, Int64.maxValue⟩ := by decide
  obtain ⟨-, -, -, -, -, hgenerators⟩ := generate_moved lowest 18446744073709551610 (by decide) (by decide)
  rw [hbounds] at hgenerators
  exact ⟨hbounds, hgenerators ⟨7⟩⟩

end IntRange

end Readback
