import Readback.Proofs.Adapter.FaultyCell
import Readback.Proofs.Domain.Consumption
import Readback.Proofs.Run.Accounting
import Readback.Proofs.Run.Refusal

/-!
# Bounds in any order

Sampling divides by the number of values between two bounds, and nothing keeps the bounds in order before they are
checked. In words of 128 bits the number of values of bounds out of order wraps: it is zero if the upper bound is the
number before the lower one, and otherwise so large that a draw is taken as it is.

- the number of values is computed in 128 bits without overflow (`toNat_wideSpan`), and it is one of three
  (`span_cases`);
- a remainder by zero is all that can keep a sample from being taken (`sample?_eq_none_iff`);
- a generator is refused exactly if its bounds are out of order (`new_of_le`, `new_of_lt`), so all its samples are taken
  (`Reached.sample?_eq`);
- **`sampling_safe`**: whatever the bounds, the seed, the number of values and the run that asks for them.
-/

namespace Readback

namespace Bounds

variable (b : Bounds)

/-! ## The number of values -/

/-- A bound in 128 bits. -/
def widen (v : Int64) : BitVec 128 := v.toBitVec.signExtend 128

/-- The number of values from `min` to `max`, computed in words of 128 bits. -/
def wideSpan : BitVec 128 := widen b.max - widen b.min + 1

theorem toInt_widen (v : Int64) : (widen v).toInt = v.toInt :=
  BitVec.toInt_signExtend_of_le (by decide)

/-- The difference of two bounds fits into 128 bits, and so does the number after it. -/
theorem not_overflow :
    BitVec.ssubOverflow (widen b.max) (widen b.min) = false ∧
      BitVec.saddOverflow (widen b.max - widen b.min) 1 = false := by
  have hmin := b.min.le_toInt
  have hmin' := b.min.toInt_lt
  have hmax := b.max.le_toInt
  have hmax' := b.max.toInt_lt
  have hsub : BitVec.ssubOverflow (widen b.max) (widen b.min) = false := by
    simp only [BitVec.ssubOverflow, toInt_widen]
    simp
    omega
  refine ⟨hsub, ?_⟩
  -- The second sum is about the wrapped difference, which is the true one by the first.
  have hdiff : (widen b.max - widen b.min).toInt = b.max.toInt - b.min.toInt := by
    rw [BitVec.toInt_sub_of_not_ssubOverflow (by simp [hsub]), toInt_widen, toInt_widen]
  simp only [BitVec.saddOverflow, hdiff]
  simp
  omega

theorem toInt_wideSpan : b.wideSpan.toInt = b.max.toInt - b.min.toInt + 1 := by
  obtain ⟨hsub, hadd⟩ := b.not_overflow
  rw [wideSpan, BitVec.toInt_add_of_not_saddOverflow (Bool.eq_false_iff.mp hadd),
    BitVec.toInt_sub_of_not_ssubOverflow (Bool.eq_false_iff.mp hsub), toInt_widen, toInt_widen]
  rfl

/-- **The number of values is what words of 128 bits make of it.** -/
theorem toNat_wideSpan : b.wideSpan.toNat = b.span := by
  rw [← BitVec.ofInt_toInt (x := b.wideSpan), BitVec.toNat_ofInt, toInt_wideSpan, span]
  rfl

/-- The number of values is that of a range, zero, or larger than any draw: as the bounds are in order, next to each
other the wrong way round, or further apart. -/
theorem span_cases :
    (b.min ≤ b.max ∧ (b.span : Int) = b.max.toInt - b.min.toInt + 1) ∨
    (b.max.toInt + 1 = b.min.toInt ∧ b.span = 0) ∨
    (b.max.toInt + 1 < b.min.toInt ∧ UInt64.size ≤ b.span) := by
  have hmin := b.min.le_toInt
  have hmin' := b.min.toInt_lt
  have hmax := b.max.le_toInt
  have hmax' := b.max.toInt_lt
  rw [Int64.le_iff_toInt_le]
  simp only [span, UInt64.size]
  omega

/-! ## One sample -/

variable {b}

theorem sample?_of_span_zero (h : b.span = 0) (d : Draws) : b.sample? d = none := by
  have hlt : ¬ UInt64.size ≤ b.span := by rw [h]; decide
  rw [sample?, if_neg hlt, dif_neg (by rw [h]; decide)]

theorem sample?_of_size_le (h : UInt64.size ≤ b.span) (d : Draws) : b.sample? d = some (d.head.toInt64, d.tail) :=
  if_pos h

/-- A sample of bounds in order is one of their range. -/
theorem sample?_of_le (h : b.min ≤ b.max) (d : Draws) : b.sample? d = some (IntRange.sample ⟨b, h⟩ d) :=
  (Option.some_get (IntRange.isSome_sample? ⟨b, h⟩ d)).symm

/-- **No sample is taken exactly if the upper bound is the number before the lower one.** -/
theorem sample?_eq_none_iff (d : Draws) : b.sample? d = none ↔ b.max.toInt + 1 = b.min.toInt := by
  rcases b.span_cases with ⟨hle, -⟩ | ⟨hnext, hspan⟩ | ⟨hfar, hspan⟩
  · rw [sample?_of_le hle]
    rw [Int64.le_iff_toInt_le] at hle
    simp
    omega
  · simp [sample?_of_span_zero hspan, hnext]
  · rw [sample?_of_size_le hspan]
    simp
    omega

/-- The remainder that sampling takes is one by zero in the same case. -/
theorem span_eq_zero_iff : b.span < UInt64.size ∧ UInt64.ofNat b.span = 0 ↔ b.max.toInt + 1 = b.min.toInt := by
  rcases b.span_cases with ⟨hle, -⟩ | ⟨hnext, hspan⟩ | ⟨hfar, hspan⟩
  · have hne : b.span < UInt64.size → UInt64.ofNat b.span ≠ 0 := IntRange.span_ne_zero (r := ⟨b, hle⟩)
    rw [Int64.le_iff_toInt_le] at hle
    constructor
    · rintro ⟨hlt, hzero⟩
      exact absurd hzero (hne hlt)
    · omega
  · simp [hspan, hnext, UInt64.size]
  · omega

/-! ## Generators -/

/-- Bounds in order have a generator, that of their range. -/
theorem new_of_le (h : b.min ≤ b.max) (seed : Seed) :
    Generator.new b.domain seed = .ok (IntRange.generator ⟨b, h⟩ seed (.ofSeed seed.value)) :=
  FaultyCell.generator_new ⟨b, h⟩ seed

/-- Bounds out of order have none. -/
theorem new_of_lt (h : b.max < b.min) (seed : Seed) : Generator.new b.domain seed = .error b.inverted := by
  rw [Generator.new_eq_error_iff]
  have hcheck : b.check = .error b.inverted := dif_neg (Int64.not_le.mpr h)
  rw [domain, hcheck]
  rfl

/-- A generator of the bounds from which any number of values was taken. -/
def Reached (b : Bounds) (g : Generator Int64) : Prop :=
  ∃ seed start n, Generator.new b.domain seed = .ok start ∧ g = start.drop n

namespace Reached

variable {g : Generator Int64}

theorem le (h : b.Reached g) : b.min ≤ b.max := by
  obtain ⟨seed, start, n, hnew, -⟩ := h
  by_contra hlt
  rw [new_of_lt (Int64.not_le.mp hlt)] at hnew
  cases hnew

theorem next (h : b.Reached g) : b.Reached g.next.2 := by
  obtain ⟨seed, start, n, hnew, rfl⟩ := h
  exact ⟨seed, start, n + 1, hnew, (start.drop_succ n).symm⟩

theorem drop (h : b.Reached g) (n : Nat) : b.Reached (g.drop n) := by
  induction n generalizing g with
  | zero => exact h
  | succ n ih => exact ih h.next

/-- **A generator that was made takes its samples**: the next value is what the bounds, unchecked, would sample. -/
theorem sample?_eq (h : b.Reached g) : b.sample? g.draws = some (g.next.1, g.next.2.draws) := by
  have hle := h.le
  obtain ⟨seed, start, n, hnew, rfl⟩ := h
  have hsampler : (start.drop n).sampler = IntRange.sample ⟨b, hle⟩ := by
    rw [new_of_le hle] at hnew
    obtain rfl := Except.ok.inj hnew
    exact Generator.drop_sampler _ n
  rw [sample?_of_le hle, Generator.next, hsampler]

end Reached

/-! ## Runs -/

variable {σ : Type}

/-- The rounds that a result `r` keeps of a run on a bench are among the rounds that it completed, and each of these
wrote what was sampled for it, one sample after the other. -/
structure Feeds (b : Bounds) (adapter : Adapter σ Int64) (bench : Bench σ Int64) (r : RunResult Int64) : Prop where
  kept : r.rounds.toList = (bench.firstRounds adapter r.roundsCompleted.toNat).filter (RunResult.keeps r.retention)
  sampled (i : Nat) : i < r.roundsCompleted.toNat →
    b.sample? (bench.after adapter i).generator.draws =
      some ((bench.roundAt adapter i).input, (bench.after adapter (i + 1)).generator.draws)

/-- A run with a generator that was made takes all its samples. -/
theorem feeds_of_drive {e : Engine} {stop : Option StopSignal} {adapter : Adapter σ Int64} {bench : Bench σ Int64}
    {r : RunResult Int64} (hdrive : (e.drive stop adapter bench).1 = .ok r) (h : b.Reached bench.generator) :
    b.Feeds adapter bench r where
  kept := (Engine.drive_balanced hdrive).accounts.kept
  sampled i _ := by
    rw [Bench.roundAt_input, Bench.after_generator, Bench.after_generator, Generator.drop_succ, Generator.valueAt]
    exact (h.drop i).sample?_eq

/-- **Sampling is safe behind the check of the bounds.** The number of values of any two bounds is computed in 128 bits
without overflow. A remainder by zero is taken exactly if the upper bound is the number before the lower one; further
apart in the wrong order, the first draw is the sample. A generator is refused, as an invalid domain, exactly if its
bounds are out of order; so no value that is asked of a generator needs a remainder by zero, and no round of a run
does. -/
theorem sampling_safe (b : Bounds) :
    (BitVec.ssubOverflow (widen b.max) (widen b.min) = false ∧
      BitVec.saddOverflow (widen b.max - widen b.min) 1 = false ∧ b.wideSpan.toNat = b.span ∧
      (b.span : Int) = (b.max.toInt - b.min.toInt + 1) % 2 ^ 128) ∧
    ((b.span < UInt64.size ∧ UInt64.ofNat b.span = 0 ↔ b.max.toInt + 1 = b.min.toInt) ∧
      ∀ d, b.sample? d = none ↔ b.max.toInt + 1 = b.min.toInt) ∧
    (b.max.toInt + 1 < b.min.toInt → ∀ d, b.sample? d = some (d.head.toInt64, ⟨d.source, d.used + 1⟩)) ∧
    (∀ seed, (b.max < b.min → ∃ message, Generator.new b.domain seed = .error (.invalidDomain message)) ∧
      (¬ b.max < b.min → ∃ g, Generator.new b.domain seed = .ok g)) ∧
    (∀ seed g, Generator.new b.domain seed = .ok g → ∀ n,
      b.sample? (g.drop n).draws = some ((g.drop n).next.1, (g.drop (n + 1)).draws)) ∧
    ∀ (σ : Type) (e : Engine) (adapter : Adapter σ Int64) (state : σ) (signals : Signals) (r : RunResult Int64),
      (∀ seed stop, (e.run b.domain seed stop adapter state signals).result = .ok r →
        ∃ g, Generator.new b.domain seed = .ok g ∧ b.Feeds adapter ⟨g, state, signals, #[]⟩ r) ∧
      ∀ g, b.Reached g → (e.runWith g adapter state signals).1.result = .ok r →
        b.Feeds adapter ⟨g, state, signals, #[]⟩ r := by
  refine ⟨?_, ⟨span_eq_zero_iff, sample?_eq_none_iff⟩, ?_, ?_, ?_, ?_⟩
  · refine ⟨b.not_overflow.1, b.not_overflow.2, b.toNat_wideSpan, ?_⟩
    simp only [span, UInt64.size]
    omega
  · intro hfar d
    rcases b.span_cases with ⟨hle, -⟩ | ⟨hnext, -⟩ | ⟨-, hspan⟩
    · rw [Int64.le_iff_toInt_le] at hle
      omega
    · omega
    · exact sample?_of_size_le hspan d
  · intro seed
    exact ⟨fun hlt => ⟨_, new_of_lt hlt seed⟩, fun hge => ⟨_, new_of_le (Int64.not_lt.mp hge) seed⟩⟩
  · intro seed g hnew n
    have hreached : b.Reached (g.drop n) := ⟨seed, g, n, hnew, rfl⟩
    rw [Generator.drop_succ]
    exact hreached.sample?_eq
  · intro σ e adapter state signals r
    constructor
    · intro seed stop h
      obtain ⟨g, hnew, hdrive⟩ := Engine.run_ok h
      have hreached : b.Reached g := ⟨seed, g, 0, hnew, rfl⟩
      exact ⟨g, hnew, feeds_of_drive hdrive hreached⟩
    · intro g hreached h
      exact feeds_of_drive h hreached

/-- From one down to zero there is no sample, and from the highest number down to the lowest every draw is one; neither
has a generator, and the faces of a die have one that never runs dry. -/
theorem sampling_safe_inverted :
    (∀ d, (Bounds.mk 1 0).sample? d = none) ∧
    (∀ d, (Bounds.mk Int64.maxValue Int64.minValue).sample? d = some (d.head.toInt64, ⟨d.source, d.used + 1⟩)) ∧
    (∃ message, Generator.new (Bounds.mk 1 0).domain ⟨1⟩ = .error (.invalidDomain message)) ∧
    ∃ g, Generator.new (Bounds.mk 1 6).domain ⟨1⟩ = .ok g ∧ ∀ n,
      (Bounds.mk 1 6).sample? (g.drop n).draws = some ((g.drop n).next.1, (g.drop (n + 1)).draws) := by
  obtain ⟨-, ⟨-, hnone⟩, -, hnew, -⟩ := sampling_safe (Bounds.mk 1 0)
  obtain ⟨-, -, hfar, -⟩ := sampling_safe (Bounds.mk Int64.maxValue Int64.minValue)
  obtain ⟨-, -, -, hdie, hvalues, -⟩ := sampling_safe (Bounds.mk 1 6)
  obtain ⟨g, hg⟩ := (hdie ⟨1⟩).2 (by decide)
  refine ⟨fun d => (hnone d).mpr (by decide), hfar (by decide), (hnew ⟨1⟩).1 (by decide), g, hg, ?_⟩
  exact hvalues ⟨1⟩ g hg

end Bounds

end Readback
