import Mathlib.Data.Nat.Prime.Basic
import Mathlib.Order.Monotone.Basic
import Readback.Proofs.Domain.Uniformity
import Readback.Proofs.Run.Course

/-!
# How many draws a sample uses

Sampling looks for a draw that is accepted, and no number of attempts is laid down for it. The search ends since the
draw with all bits set is accepted for every range: `(2 ^ 64 - 1) * s = (s - 1) * 2 ^ 64 + (2 ^ 64 - s)`, and the low
half `2 ^ 64 - s` is not below the remainder of `2 ^ 64` by `s`.

- the draw with all bits set stands for the upper bound (`accept?_allOnes`);
- fewer than half of the draws are rejected (`two_mul_ncard_rejected_lt`), and none exactly for powers of two
  (`forall_accept?_iff`);
- a sample takes the shortest run of draws that ends in an accepted one (`takes_sample`, `Takes.unique`), and stops at
  the latest behind the horizon of its source (`Takes.used_le`);
- **`sampling_consumes`**: value after value, a generator over any finite list of draws, with all ones behind it.
-/

namespace Readback

namespace IntRange

variable {r : IntRange}

/-! ## Which draws are rejected -/

/-- **The draw with all bits set stands for the upper bound.** -/
theorem accept?_allOnes (h : r.span < UInt64.size) : r.accept? allOnes = some r.max := by
  have hones : allOnes.toNat = UInt64.size - 1 := rfl
  obtain ⟨o, ho⟩ := Option.isSome_iff_exists.mp (offset?_allOnes (span_ne_zero h))
  rw [accept?_eq_some_iff h]
  refine ⟨o, ho, ?_⟩
  obtain ⟨-, hdiv⟩ := (offset?_eq_some_iff (toNat_span_pos h)).mp ho
  rw [toNat_span h, hones] at hdiv
  have hpos := r.span_pos.1
  have hhigh : (UInt64.size - 1) * r.span / UInt64.size = r.span - 1 := by
    simp only [UInt64.size] at h ⊢
    omega
  have hspan := r.span_eq
  omega

theorem accept?_of_full (h : r.span = UInt64.size) (draw : UInt64) : r.accept? draw = some draw.toInt64 := by
  rw [accept?, if_pos (Nat.le_of_eq h.symm)]

theorem accept?_allOnes_ne_none (r : IntRange) : r.accept? allOnes ≠ none := by
  rcases Nat.lt_or_eq_of_le r.span_pos.2 with h | h
  · simp [accept?_allOnes h]
  · simp [accept?_of_full h]

/-- A remainder is less than half of what is divided. -/
theorem two_mul_ncard_rejected_lt (h : r.span < UInt64.size) :
    2 * {draw | r.accept? draw = none}.ncard < UInt64.size := by
  rw [ncard_accept?_eq_none h]
  have hlt := Nat.mod_lt UInt64.size r.span_pos.1
  have hle : 1 * r.span ≤ UInt64.size / r.span * r.span :=
    Nat.mul_le_mul_right _ (Nat.div_pos (Nat.le_of_lt h) r.span_pos.1)
  have hsplit := Nat.div_add_mod' UInt64.size r.span
  omega

/-- **No draw is rejected exactly if the number of values is a power of two.** -/
theorem forall_accept?_iff (h : r.span < UInt64.size) :
    (∀ draw, r.accept? draw ≠ none) ↔ ∃ k, r.span = 2 ^ k := by
  have : Finite UInt64 := Finite.of_injective UInt64.toFin fun _ _ => UInt64.toFin_inj.mp
  have hnone : (∀ draw, r.accept? draw ≠ none) ↔ UInt64.size % r.span = 0 := by
    rw [← ncard_accept?_eq_none h, Set.ncard_eq_zero, Set.eq_empty_iff_forall_notMem]
    rfl
  rw [hnone, ← Nat.dvd_iff_mod_eq_zero, show UInt64.size = 2 ^ 64 from rfl, Nat.dvd_prime_pow Nat.prime_two]
  constructor
  · rintro ⟨k, -, hk⟩
    exact ⟨k, hk⟩
  · rintro ⟨k, hk⟩
    refine ⟨k, ?_, hk⟩
    rw [hk, show UInt64.size = 2 ^ 64 from rfl] at h
    exact Nat.le_of_lt ((Nat.pow_lt_pow_iff_right (by decide)).mp h)

/-! ## One sample -/

/-- Sampling at the place `d` gives `v` and goes on at `rest`: the draws in between are at least one, the last of them
is accepted as `v`, and those before it are rejected. -/
structure Takes (r : IntRange) (d : Draws) (v : Int64) (rest : Draws) : Prop where
  source : rest.source = d.source
  used_lt : d.used < rest.used
  rejected : ∀ k, d.used ≤ k → k + 1 < rest.used → r.accept? (d.source.draw k) = none
  accepted : r.accept? (d.source.draw (rest.used - 1)) = some v

variable {d rest rest' : Draws} {v v' : Int64}

theorem takes_of_accepted (h : r.accept? d.head = some v) : r.Takes d v d.tail where
  source := rfl
  used_lt := Nat.lt_succ_self _
  rejected k hlo hhi := by
    simp only [Draws.tail] at hhi
    omega
  accepted := h

theorem Takes.of_rejected (h : r.accept? d.head = none) (ht : r.Takes d.tail v rest) : r.Takes d v rest where
  source := ht.source
  used_lt := Nat.lt_of_succ_lt ht.used_lt
  rejected k hlo hhi := by
    rcases Nat.eq_or_lt_of_le hlo with rfl | hlt
    · exact h
    · exact ht.rejected k hlt hhi
  accepted := ht.accepted

/-- **A sample takes the draws up to the first accepted one.** The induction is on how far the horizon is away. -/
theorem takes_sample (r : IntRange) (d : Draws) : r.Takes d (r.sample d).1 (r.sample d).2 := by
  induction hn : d.source.horizon - d.used generalizing d with
  | zero =>
    have hones : d.head = allOnes := d.source.draw_beyond d.used (by omega)
    obtain ⟨v, hv⟩ := Option.ne_none_iff_exists'.mp r.accept?_allOnes_ne_none
    rw [← hones] at hv
    rw [sample_eq_accept?, hv]
    exact takes_of_accepted hv
  | succ n ih =>
    cases hv : r.accept? d.head with
    | some v =>
      rw [sample_eq_accept?, hv]
      exact takes_of_accepted hv
    | none =>
      rw [sample_eq_accept?, hv]
      apply Takes.of_rejected hv
      apply ih
      simp only [Draws.tail]
      omega

/-- There is only one way to take a sample. -/
theorem Takes.unique (h : r.Takes d v rest) (h' : r.Takes d v' rest') : v = v' ∧ rest = rest' := by
  -- A run that went on behind the last draw of the other would have rejected it.
  have hle {v v' : Int64} {rest rest' : Draws} (h : r.Takes d v rest) (h' : r.Takes d v' rest') :
      rest'.used ≤ rest.used := by
    by_contra hlt
    have hpos := h.used_lt
    have hrejected := h'.rejected (rest.used - 1) (by omega) (by omega)
    cases hrejected.symm.trans h.accepted
  have hused : rest.used = rest'.used := Nat.le_antisymm (hle h' h) (hle h h')
  constructor
  · have haccepted := h.accepted
    rw [hused, h'.accepted] at haccepted
    exact (Option.some.inj haccepted).symm
  · have hsource := h.source.trans h'.source.symm
    cases rest
    cases rest'
    simp_all

/-- A sample stops at the latest with the first draw behind the horizon. -/
theorem Takes.used_le (h : r.Takes d v rest) : rest.used ≤ max d.used d.source.horizon + 1 := by
  by_contra hlt
  have hrejected := h.rejected (max d.used d.source.horizon) (by omega) (by omega)
  rw [d.source.draw_beyond _ (by omega)] at hrejected
  exact r.accept?_allOnes_ne_none hrejected

end IntRange

/-! ## Sample after sample -/

namespace Generator

variable {V : Type}

theorem drop_sampler (g : Generator V) : ∀ n, (g.drop n).sampler = g.sampler
  | 0 => rfl
  | n + 1 => drop_sampler g.next.2 n

/-- Taking values one after the other gives the values at their places. -/
theorem take_eq (g : Generator V) (n : Nat) : g.take n = ((List.range n).map g.valueAt, g.drop n) := by
  induction n generalizing g with
  | zero => rfl
  | succ n ih =>
    have htake : g.take (n + 1) = (g.next.1 :: (g.next.2.take n).1, (g.next.2.take n).2) := rfl
    rw [htake, ih, List.range_succ_eq_map, List.map_cons, List.map_map]
    rfl

end Generator

namespace IntRange

/-- A generator of the range that has its draws from a source. -/
def generator (r : IntRange) (seed : Seed) (source : DrawSource) : Generator Int64 :=
  ⟨r.domain, r.sample, seed, .start source⟩

variable (r : IntRange) (seed : Seed) (source : DrawSource)

/-- Each value is a sample at the place where the one before it left off. -/
theorem generator_takes (i : Nat) :
    r.Takes ((r.generator seed source).drop i).draws ((r.generator seed source).valueAt i)
      ((r.generator seed source).drop (i + 1)).draws := by
  have hsampler : ((r.generator seed source).drop i).sampler = r.sample := Generator.drop_sampler _ i
  rw [Generator.drop_succ, Generator.valueAt]
  simp only [Generator.next, hsampler]
  exact r.takes_sample _

theorem generator_source (i : Nat) : ((r.generator seed source).drop i).draws.source = source := by
  induction i with
  | zero => rfl
  | succ i ih => rw [(r.generator_takes seed source i).source, ih]

theorem strictMono_used : StrictMono fun i => ((r.generator seed source).drop i).draws.used :=
  strictMono_nat_of_lt_succ fun i => (r.generator_takes seed source i).used_lt

/-- `n` values need no more draws than lie before the horizon, and one each behind it. -/
theorem used_le (n : Nat) : ((r.generator seed source).drop n).draws.used ≤ source.horizon + n := by
  induction n with
  | zero => exact Nat.zero_le _
  | succ n ih =>
    have h := (r.generator_takes seed source n).used_le
    rw [generator_source] at h
    omega

/-- **Sampling comes to an end, and uses as many draws as it must.** Of a range that draws can number, the draw with all
bits set is the upper bound, fewer than half of the draws are rejected, and none only if the number of values is a power
of two; the full range rejects none. Over any finite list of draws with all ones behind it, taking `n` values gives `n`
values and uses at most `n` draws more than the list has. Each value is that of the first accepted draw behind the draws
that the values before it used, and the draws up to there are used. -/
theorem sampling_consumes (r : IntRange) :
    (r.span < UInt64.size →
      r.accept? allOnes = some r.max ∧
      2 * {draw | r.accept? draw = none}.ncard < UInt64.size ∧
      ((∀ draw, r.accept? draw ≠ none) ↔ ∃ k, r.span = 2 ^ k)) ∧
    (r.span = UInt64.size → ∀ draw, r.accept? draw ≠ none) ∧
    ∀ (draws : List UInt64) (seed : Seed) (g : Generator Int64), g = r.generator seed (.ofList draws) →
      (∀ n, g.take n = ((List.range n).map g.valueAt, g.drop n) ∧ (g.drop n).draws.used ≤ draws.length + n) ∧
      (∀ i, (g.drop i).draws.source = .ofList draws ∧ ∀ v rest,
        r.Takes (g.drop i).draws v rest ↔ v = g.valueAt i ∧ rest = (g.drop (i + 1)).draws) ∧
      StrictMono fun i => (g.drop i).draws.used := by
  refine ⟨fun h => ⟨accept?_allOnes h, two_mul_ncard_rejected_lt h, forall_accept?_iff h⟩, fun h draw => ?_, ?_⟩
  · simp [accept?_of_full h]
  rintro draws seed g rfl
  refine ⟨fun n => ⟨Generator.take_eq _ n, r.used_le seed _ n⟩, fun i => ?_, r.strictMono_used seed _⟩
  refine ⟨r.generator_source seed _ i, fun v rest => ?_⟩
  constructor
  · intro h
    exact h.unique (r.generator_takes seed _ i)
  · rintro ⟨rfl, rfl⟩
    exact r.generator_takes seed _ i

/-- For a die the draw zero is rejected, so the second of these two values uses two draws, one of them behind the
list. -/
theorem sampling_consumes_die :
    die.accept? allOnes = some 6 ∧ ¬ (∃ k, die.span = 2 ^ k) ∧
      ∃ g, g = die.generator ⟨0⟩ (.ofList [1, 0]) ∧ g.take 2 = ([1, 6], g.drop 2) ∧ (g.drop 2).draws.used = 3 := by
  obtain ⟨hrange, -, hlists⟩ := sampling_consumes die
  obtain ⟨hones, -, hpower⟩ := hrange (by decide)
  obtain ⟨htake, hsamples, -⟩ := hlists [1, 0] ⟨0⟩ _ rfl
  have hzero : die.accept? 0 = none := by decide
  have hfirst : die.Takes (.start (.ofList [1, 0])) 1 ⟨.ofList [1, 0], 1⟩ := takes_of_accepted (by decide)
  obtain ⟨hvalue₀, hrest₀⟩ := ((hsamples 0).2 _ _).mp hfirst
  have hsecond : die.Takes ⟨.ofList [1, 0], 1⟩ 6 ⟨.ofList [1, 0], 3⟩ :=
    Takes.of_rejected hzero (takes_of_accepted (by decide))
  rw [hrest₀] at hsecond
  obtain ⟨hvalue₁, hrest₁⟩ := ((hsamples 1).2 _ _).mp hsecond
  refine ⟨hones, fun hk => hpower.mpr hk 0 hzero, _, rfl, ?_, ?_⟩
  · rw [(htake 2).1]
    simp [List.range_succ, ← hvalue₀, ← hvalue₁]
  · rw [← hrest₁]

end IntRange

end Readback
