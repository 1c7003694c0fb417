import Mathlib.Data.ENat.Lattice
import Readback.Adapter.Interrupt
import Readback.Proofs.Run.Course

/-!
# The length of a run

A run plays a beginning of the course of its bench. Three things can end it: its rounds are all played, a round did not
pass and the configuration says to stop there, or the signal is seen raised before another round. `CutAt` says where the
first of them happens.

- the loop plays up to the cut, records what it played, and closes with the reason (`loop_eq_close`); so does a whole
  run (`drive_eq_close`);
- the place of the cut is the least of the three limits (`CutAt.eq_length`), and the run counts as cancelled if the
  signal alone made it that short (`CutAt.cancelled_iff`);
- hence the length of a run, its rounds and its last state are known from the course alone (`run_cutsCourse`).
-/

namespace Readback

variable {σ V : Type}

theorem one_le_iff_ne_zero {n : UInt64} : 1 ≤ n ↔ n ≠ 0 := by
  rw [UInt64.le_iff_toNat_le, ← UInt64.toNat_inj.ne]
  exact Nat.one_le_iff_ne_zero

/-! ## The first place of a property -/

/-- The first place at which a property holds; `⊤` if it holds nowhere. -/
noncomputable def firstAt (P : Nat → Prop) : ℕ∞ := ⨅ (n : Nat) (_ : P n), (n : ℕ∞)

theorem firstAt_lt_iff {P : Nat → Prop} {n : Nat} : firstAt P < n ↔ ∃ i < n, P i := by
  simp only [firstAt, iInf_lt_iff, Nat.cast_lt, exists_prop]
  exact ⟨fun ⟨i, hP, hi⟩ => ⟨i, hi, hP⟩, fun ⟨i, hi, hP⟩ => ⟨i, hP, hi⟩⟩

theorem firstAt_add_one_le_iff {P : Nat → Prop} {n : Nat} : firstAt P + 1 ≤ n ↔ ∃ i < n, P i := by
  rw [ENat.add_one_le_natCast_iff, firstAt_lt_iff]

theorem firstAt_le_iff {P : Nat → Prop} {n : Nat} : firstAt P ≤ n ↔ ∃ i ≤ n, P i := by
  rw [← ENat.lt_natCast_add_one_iff, ← Nat.cast_one, ← Nat.cast_add, firstAt_lt_iff]
  simp only [Nat.lt_succ_iff]

theorem le_firstAt_iff {P : Nat → Prop} {m : ℕ∞} : m ≤ firstAt P ↔ ∀ n, P n → m ≤ n := by
  simp only [firstAt, le_iInf_iff]

/-! ## The cut -/

namespace Engine

section Cut

variable (e : Engine) (stop : Option StopSignal) (adapter : Adapter σ V) (b : Bench σ V)

/-- Whether a failure ends the run when `n` rounds are played. -/
def failsAt : Nat → Bool
  | 0 => false
  | n + 1 => e.config.stopOnFirstFailure && !(b.roundAt adapter n).isPass

/-- Something ends the run when `n` rounds are played: a failure, or the signal seen before another round. -/
def EndsAt (n : Nat) : Prop :=
  e.failsAt adapter b n = true ∨ (0 < n ∧ stopRequested stop (b.after adapter n).signals = true)

/-- A run of `total` rounds is cut when `n` are played: nothing ends it before, and then something does. -/
structure CutAt (total n : Nat) : Prop where
  le_total : n ≤ total
  ends : n = total ∨ e.EndsAt stop adapter b n
  not_before : ∀ i < n, ¬ e.EndsAt stop adapter b i

/-- A run when `n` rounds are played and recorded. -/
def progressAt (r : RunResult V) (n : Nat) : Progress σ V := ⟨b.after adapter n, r.recordAll (b.firstRounds adapter n)⟩

/-- The end of a run of `total` rounds that is cut when `n` are played: the reason is logged, and a run that a signal
cut short is cancelled. -/
def close (total n : Nat) (p : Progress σ V) : Progress σ V :=
  if e.failsAt adapter b n then ⟨p.bench.report (.stoppedAtFailure (.ofNat (n - 1))), p.result⟩
  else if n < total then ⟨p.bench.report (.stopRequested (.ofNat n)), { p.result with cancelled := true }⟩
  else p

variable {e stop adapter b}

theorem not_endsAt_zero : ¬ e.EndsAt stop adapter b 0 := by
  simp [EndsAt, failsAt]

theorem endsAt_succ {n : Nat} :
    e.EndsAt stop adapter b (n + 1) ↔
      (e.config.stopOnFirstFailure = true ∧ (b.roundAt adapter n).isPass = false) ∨
        stopRequested stop (b.after adapter (n + 1)).signals = true := by
  simp [EndsAt, failsAt]

theorem CutAt.le_of_endsAt {total n i : Nat} (h : e.CutAt stop adapter b total n) (hi : e.EndsAt stop adapter b i) :
    n ≤ i := Nat.le_of_not_lt fun hlt => h.not_before i hlt hi

theorem progressAt_succ (r : RunResult V) (n : Nat) :
    progressAt adapter b r (n + 1) =
      ⟨((b.after adapter n).play adapter (.ofNat n)).2,
        (progressAt adapter b r n).result.record (b.roundAt adapter n)⟩ := by
  rw [progressAt, Bench.firstRounds_succ, RunResult.recordAll_append_singleton]
  rfl

theorem ofNat_pos_iff {k : Nat} (hk : k < UInt64.size) : (0 : UInt64) < .ofNat k ↔ 0 < k := by
  rw [UInt64.lt_iff_toNat_lt, UInt64.toNat_ofNat_of_lt' hk, UInt64.toNat_zero]

/-- One step of the loop when nothing ends the run: another round is played and recorded. -/
theorem loop_succ_of_not_endsAt (r : RunResult V) {left k : Nat} (hk : k < UInt64.size)
    (hnot : ¬ e.EndsAt stop adapter b k) :
    e.loop stop adapter (left + 1) (.ofNat k) (progressAt adapter b r k) =
      if e.failsAt adapter b (k + 1) then
        ⟨(b.after adapter (k + 1)).report (.stoppedAtFailure (.ofNat k)), (progressAt adapter b r (k + 1)).result⟩
      else e.loop stop adapter left (.ofNat (k + 1)) (progressAt adapter b r (k + 1)) := by
  have hstop : ¬ ((0 : UInt64) < .ofNat k ∧ stopRequested stop (b.after adapter k).signals = true) :=
    fun h => hnot (.inr ⟨(ofNat_pos_iff hk).mp h.1, h.2⟩)
  have hindex : UInt64.ofNat (k + 1) = .ofNat k + 1 := by rw [UInt64.ofNat_add]; rfl
  rw [loop, progressAt_succ, hindex, failsAt, Bool.and_comm]
  exact if_neg hstop

variable (e stop adapter b)

/-- **The loop plays up to the cut.** It is entered when `k` rounds are played and nothing has ended the run. -/
theorem loop_eq_close (r : RunResult V) :
    ∀ {left k : Nat}, k + left < UInt64.size → (∀ i < k, ¬ e.EndsAt stop adapter b i) →
      e.failsAt adapter b k = false →
      ∃ n, e.CutAt stop adapter b (k + left) n ∧
        e.loop stop adapter left (.ofNat k) (progressAt adapter b r k) =
          e.close adapter b (k + left) n (progressAt adapter b r n)
  | 0, k, _, hbefore, hfail => by
    refine ⟨k, ⟨Nat.le_refl k, .inl rfl, hbefore⟩, ?_⟩
    rw [loop, close, hfail, if_neg Bool.false_ne_true, Nat.add_zero, if_neg (Nat.lt_irrefl k)]
  | left + 1, k, hsize, hbefore, hfail => by
    by_cases hends : e.EndsAt stop adapter b k
    · -- No failure ends the run here, so the signal does.
      obtain ⟨hpos, hraised⟩ := hends.resolve_left (by rw [hfail]; exact Bool.false_ne_true)
      refine ⟨k, ⟨by omega, .inr hends, hbefore⟩, ?_⟩
      rw [loop, close, hfail, if_neg Bool.false_ne_true, if_pos (show k < k + (left + 1) by omega)]
      exact if_pos ⟨(ofNat_pos_iff (by omega)).mpr hpos, hraised⟩
    · have hbefore' : ∀ i < k + 1, ¬ e.EndsAt stop adapter b i := by
        intro i hi
        rcases Nat.lt_succ_iff_lt_or_eq.mp hi with h | rfl
        · exact hbefore i h
        · exact hends
      rw [loop_succ_of_not_endsAt r (by omega) hends, show k + (left + 1) = k + 1 + left by omega]
      cases hf : e.failsAt adapter b (k + 1) with
      | true =>
        refine ⟨k + 1, ⟨by omega, .inr (.inl hf), hbefore'⟩, ?_⟩
        rw [close, hf]
        rfl
      | false => exact loop_eq_close r (by omega) hbefore' hf

/-- From the start on, the loop plays up to the cut. -/
theorem loop_zero_eq_close (r : RunResult V) {total : Nat} (hsize : total < UInt64.size) :
    ∃ n, e.CutAt stop adapter b total n ∧
      e.loop stop adapter total 0 ⟨b, r⟩ = e.close adapter b total n (progressAt adapter b r n) := by
  have h := loop_eq_close e stop adapter b r (by rwa [Nat.zero_add]) (fun i hi => absurd hi (Nat.not_lt_zero i)) rfl
  rwa [Nat.zero_add] at h

variable {e stop adapter b}

theorem close_quiet (adapter : Adapter σ V) (b : Bench σ V) (total n : Nat) (p : Progress σ V) :
    (e.close adapter b total n p).bench.quiet = p.bench.quiet := by
  unfold close
  split
  · rfl
  · split <;> rfl

theorem close_result (adapter : Adapter σ V) (b : Bench σ V) (total n : Nat) {p : Progress σ V}
    (hp : p.result.cancelled = false) :
    (e.close adapter b total n p).result =
      { p.result with cancelled := !e.failsAt adapter b n && decide (n < total) } := by
  unfold close
  cases e.failsAt adapter b n with
  | true => rw [if_pos rfl, Bool.not_true, Bool.false_and, ← hp]
  | false =>
    rw [if_neg Bool.false_ne_true, Bool.not_false, Bool.true_and]
    by_cases hlt : n < total
    · rw [if_pos hlt, decide_eq_true hlt]
    · rw [if_neg hlt, decide_eq_false hlt, ← hp]

end Cut

/-! ## Where the cut is -/

section Limits

variable (e : Engine) (stop : Option StopSignal) (adapter : Adapter σ V) (b : Bench σ V)

/-- The place of the first round that does not pass. -/
noncomputable def firstFailure : ℕ∞ := firstAt fun i => (b.roundAt adapter i).isPass = false

/-- The place of the first round after which the run's signal is raised. -/
noncomputable def firstRaise : ℕ∞ := firstAt fun i => stopRequested stop (b.after adapter (i + 1)).signals = true

/-- The number of rounds that a run plays: the least of the rounds asked for, those up to the first failure if that is
to end the run, and those up to the first after which the signal is raised. -/
noncomputable def length : ℕ∞ :=
  min e.config.rounds.toNat
    (min (if e.config.stopOnFirstFailure then firstFailure adapter b + 1 else ⊤) (firstRaise stop adapter b + 1))

variable {e stop adapter b}

/-- **The cut is at the least of the three limits.** -/
theorem CutAt.eq_length {n : Nat} (h : e.CutAt stop adapter b e.config.rounds.toNat n) :
    (n : ℕ∞) = e.length stop adapter b := by
  have hfail (m : Nat) : (if e.config.stopOnFirstFailure then firstFailure adapter b + 1 else ⊤) ≤ (m : ℕ∞) ↔
      e.config.stopOnFirstFailure = true ∧ ∃ i < m, (b.roundAt adapter i).isPass = false := by
    cases e.config.stopOnFirstFailure with
    | true => simp [firstFailure, firstAt_add_one_le_iff]
    | false => simp
  refine eq_of_forall_ge_iff fun m => ?_
  induction m using ENat.recTopCoe with
  | top => exact ⟨fun _ => le_top, fun _ => le_top⟩
  | coe m =>
    rw [length, min_le_iff, min_le_iff, hfail, firstRaise, firstAt_add_one_le_iff, Nat.cast_le, Nat.cast_le]
    constructor
    · intro hnm
      rcases h.ends with hn | hn
      · exact .inl (hn ▸ hnm)
      · cases n with
        | zero => exact absurd hn not_endsAt_zero
        | succ n =>
          rcases endsAt_succ.mp hn with ⟨hflag, hf⟩ | hs
          · exact .inr (.inl ⟨hflag, n, hnm, hf⟩)
          · exact .inr (.inr ⟨n, hnm, hs⟩)
    · rintro (ht | ⟨hflag, i, hi, hf⟩ | ⟨i, hi, hs⟩)
      · exact Nat.le_trans h.le_total ht
      · exact Nat.le_trans (h.le_of_endsAt (endsAt_succ.mpr (.inl ⟨hflag, hf⟩))) hi
      · exact Nat.le_trans (h.le_of_endsAt (endsAt_succ.mpr (.inr hs))) hi

/-- **The signal alone cuts a run short** if it is raised before the last round is played, and no failure that ends the
run comes first or in the same round. -/
theorem CutAt.cancelled_iff {total n : Nat} (h : e.CutAt stop adapter b total n) :
    (e.failsAt adapter b n = false ∧ n < total) ↔
      firstRaise stop adapter b + 1 < total ∧
        ¬ (e.config.stopOnFirstFailure = true ∧ firstFailure adapter b ≤ firstRaise stop adapter b) := by
  have hraise : firstRaise stop adapter b + 1 < total ↔
      ∃ i, i + 1 < total ∧ stopRequested stop (b.after adapter (i + 1)).signals = true := by
    cases total with
    | zero => simp
    | succ t =>
      rw [Nat.cast_add, Nat.cast_one, ENat.lt_natCast_add_one_iff, firstRaise, firstAt_add_one_le_iff]
      simp only [Nat.add_lt_add_iff_right]
  have horder : firstFailure adapter b ≤ firstRaise stop adapter b ↔
      ∀ i, stopRequested stop (b.after adapter (i + 1)).signals = true →
        ∃ j ≤ i, (b.roundAt adapter j).isPass = false := by
    rw [firstRaise, le_firstAt_iff]
    refine forall_congr' fun i => imp_congr_right fun _ => ?_
    rw [firstFailure, firstAt_le_iff]
  rw [hraise, horder]
  constructor
  · rintro ⟨hfail, hlt⟩
    have hends := h.ends.resolve_left (Nat.ne_of_lt hlt)
    cases n with
    | zero => exact absurd hends not_endsAt_zero
    | succ n =>
      have hs := (hends.resolve_left (by rw [hfail]; exact Bool.false_ne_true)).2
      refine ⟨⟨n, hlt, hs⟩, fun ⟨hflag, hall⟩ => ?_⟩
      obtain ⟨j, hj, hf⟩ := hall n hs
      have hjn : j = n := by
        have := h.le_of_endsAt (endsAt_succ.mpr (.inl ⟨hflag, hf⟩))
        omega
      simp [failsAt, hflag, ← hjn, hf] at hfail
  · rintro ⟨⟨i, hi, hs⟩, hnone⟩
    refine ⟨?_, Nat.lt_of_le_of_lt (h.le_of_endsAt (endsAt_succ.mpr (.inr hs))) hi⟩
    cases n with
    | zero => rfl
    | succ j =>
      rw [← Bool.not_eq_true]
      intro hfail
      obtain ⟨hflag, hf⟩ : e.config.stopOnFirstFailure = true ∧ (b.roundAt adapter j).isPass = false := by
        simpa [failsAt] using hfail
      refine hnone ⟨hflag, fun i' hs' => ⟨j, ?_, hf⟩⟩
      have := h.le_of_endsAt (endsAt_succ.mpr (.inr hs'))
      omega

end Limits

/-! ## Whole runs -/

section Runs

variable {e : Engine} {stop : Option StopSignal} {adapter : Adapter σ V}

theorem after_signals_congr_quiet {b b' : Bench σ V} (h : b.quiet = b'.quiet) (n : Nat) :
    (b.after adapter n).signals = (b'.after adapter n).signals :=
  (Bench.quiet_eq_iff.mp (Bench.after_congr_quiet adapter h n)).2.2

theorem failsAt_congr_quiet {b b' : Bench σ V} (h : b.quiet = b'.quiet) :
    ∀ n, e.failsAt adapter b n = e.failsAt adapter b' n
  | 0 => rfl
  | n + 1 => by rw [failsAt, failsAt, Bench.roundAt_congr_quiet adapter h n]

theorem endsAt_congr_quiet {b b' : Bench σ V} (h : b.quiet = b'.quiet) (n : Nat) :
    e.EndsAt stop adapter b n ↔ e.EndsAt stop adapter b' n := by
  rw [EndsAt, EndsAt, failsAt_congr_quiet h n, after_signals_congr_quiet h n]

/-- The cut does not depend on what was logged before the run. -/
theorem CutAt.congr_quiet {b b' : Bench σ V} (h : b.quiet = b'.quiet) {total n : Nat}
    (hc : e.CutAt stop adapter b total n) : e.CutAt stop adapter b' total n where
  le_total := hc.le_total
  ends := hc.ends.imp_right (endsAt_congr_quiet h n).mp
  not_before i hi := fun hends => hc.not_before i hi ((endsAt_congr_quiet h i).mpr hends)

/-- The bench when the start of a run is logged. -/
def opened (e : Engine) (b : Bench σ V) : Bench σ V :=
  b.report (.started e.config.rounds b.generator.domain.label b.generator.seed)

theorem quiet_opened (b : Bench σ V) : (e.opened b).quiet = b.quiet := rfl

/-- What a run gives back when it is over. -/
def finish (p : Progress σ V) : Except SetupError (RunResult V) × Bench σ V :=
  (.ok { p.result with finished := true }, p.bench.report (finishEvent { p.result with finished := true }))

/-- **A run that is not refused plays the course up to the cut**, and closes. -/
theorem drive_eq_close (e : Engine) (stop : Option StopSignal) (adapter : Adapter σ V) (b : Bench σ V)
    (hrounds : 1 ≤ e.config.rounds) (hstop : stopRequested stop b.signals = false) :
    ∃ n, e.CutAt stop adapter b e.config.rounds.toNat n ∧
      e.drive stop adapter b =
        finish (e.close adapter (e.opened b) e.config.rounds.toNat n
          (progressAt adapter (e.opened b) (e.emptyResult b.generator) n)) := by
  have hvalid : e.config.validate = .ok () := if_neg fun h0 => by rw [h0] at hrounds; exact absurd hrounds (by decide)
  obtain ⟨n, hcut, hloop⟩ :=
    loop_zero_eq_close e stop adapter (e.opened b) (e.emptyResult b.generator) e.config.rounds.toNat_lt
  refine ⟨n, hcut.congr_quiet (quiet_opened b), ?_⟩
  rw [← hloop, drive, hvalid]
  exact if_neg (by rw [hstop]; exact Bool.false_ne_true)

/-- The result of a run that is cut when `n` rounds are played. -/
def resultAt (e : Engine) (adapter : Adapter σ V) (b : Bench σ V) (n : Nat) : RunResult V :=
  { (e.emptyResult b.generator).recordAll (b.firstRounds adapter n) with
    cancelled := !e.failsAt adapter b n && decide (n < e.config.rounds.toNat)
    finished := true }

/-- **What a run that is not refused gives back**: the result at the cut, and the state of the course there. -/
theorem drive_eq_resultAt (e : Engine) (stop : Option StopSignal) (adapter : Adapter σ V) (b : Bench σ V)
    (hrounds : 1 ≤ e.config.rounds) (hstop : stopRequested stop b.signals = false) :
    ∃ n b', e.CutAt stop adapter b e.config.rounds.toNat n ∧
      e.drive stop adapter b = (.ok (e.resultAt adapter b n), b') ∧ b'.quiet = (b.after adapter n).quiet := by
  obtain ⟨n, hcut, hdrive⟩ := drive_eq_close e stop adapter b hrounds hstop
  have hstart := quiet_opened (e := e) b
  have hp : (progressAt adapter (e.opened b) (e.emptyResult b.generator) n).result.cancelled = false :=
    (RunResult.recordAll_frame _ _).2.2.2.2.1
  have hresult := close_result (e := e) adapter (e.opened b) e.config.rounds.toNat n hp
  have hquiet := close_quiet (e := e) adapter (e.opened b) e.config.rounds.toNat n
    (progressAt adapter (e.opened b) (e.emptyResult b.generator) n)
  rw [failsAt_congr_quiet hstart n] at hresult
  have hok : { (e.close adapter (e.opened b) e.config.rounds.toNat n
      (progressAt adapter (e.opened b) (e.emptyResult b.generator) n)).result with finished := true } =
        e.resultAt adapter b n := by
    rw [hresult, resultAt, progressAt, Bench.firstRounds_congr_quiet adapter hstart n]
  rw [finish, hok] at hdrive
  exact ⟨n, _, hcut, hdrive, hquiet.trans (Bench.after_congr_quiet adapter hstart n)⟩

/-- A run over a domain that is not refused is a run on a bench with its generator. -/
theorem run_eq_of_drive {domain : Domain V} {seed : Seed} {state : σ} {signals : Signals} {generator : Generator V}
    {result : Except SetupError (RunResult V)} {b' : Bench σ V} (hdomain : Generator.new domain seed = .ok generator)
    (hdrive : e.drive stop adapter { generator, adapter := state, signals } = (result, b')) :
    e.run domain seed stop adapter state signals = ⟨result, b'.adapter, b'.signals, b'.log⟩ := by
  rw [run, hdomain]
  simp only [hdrive]

theorem CutAt.lt_size {b : Bench σ V} {n : Nat} (h : e.CutAt stop adapter b e.config.rounds.toNat n) :
    n < UInt64.size := Nat.lt_of_le_of_lt h.le_total e.config.rounds.toNat_lt

theorem roundsCompleted_resultAt (b : Bench σ V) (n : Nat) :
    (e.resultAt adapter b n).roundsCompleted = UInt64.ofNat n := by
  have h := (e.emptyResult b.generator).roundsCompleted_recordAll (b.firstRounds adapter n)
  rw [Bench.length_firstRounds] at h
  exact h.trans (UInt64.zero_add _)

theorem rounds_resultAt (b : Bench σ V) (n : Nat) :
    (e.resultAt adapter b n).rounds.toList =
      (b.firstRounds adapter n).filter (RunResult.keeps e.config.retention) :=
  ((e.emptyResult b.generator).rounds_recordAll (b.firstRounds adapter n)).trans (List.nil_append _)

/-! ## The law of lengths -/

/-- A run with result `r` and last bench `b'` is the course of `b`, cut in time: it has the length that the three limits
leave, and its rounds and its last state are those of the course. It is cancelled if the signal alone cut it short, and
then it has played a round and has not played all. -/
structure CutsCourse (e : Engine) (stop : Option StopSignal) (adapter : Adapter σ V) (b : Bench σ V) (r : RunResult V)
    (b' : Bench σ V) : Prop where
  completed_eq : (r.roundsCompleted.toNat : ℕ∞) = e.length stop adapter b
  rounds_eq : e.config.retention = .all → r.rounds.toList = b.firstRounds adapter r.roundsCompleted.toNat
  generator_eq : b'.generator = (b.after adapter r.roundsCompleted.toNat).generator
  adapter_eq : b'.adapter = (b.after adapter r.roundsCompleted.toNat).adapter
  signals_eq : b'.signals = (b.after adapter r.roundsCompleted.toNat).signals
  cancelled_iff : r.cancelled = true ↔ stop.isSome = true ∧
    firstRaise stop adapter b + 1 < (e.config.rounds.toNat : ℕ∞) ∧
    ¬ (e.config.stopOnFirstFailure = true ∧ firstFailure adapter b ≤ firstRaise stop adapter b)
  bounds_of_cancelled : r.cancelled = true → 1 ≤ r.roundsCompleted ∧ r.roundsCompleted < r.roundsRequested

/-- Without a signal no round is followed by a request to stop. -/
theorem isSome_of_firstRaise_lt {b : Bench σ V} {n : Nat} (h : firstRaise stop adapter b + 1 < n) :
    stop.isSome = true := by
  cases stop with
  | some signal => rfl
  | none =>
    obtain ⟨i, -, hi⟩ := firstAt_add_one_le_iff.mp h.le
    cases hi

theorem cancelled_resultAt {b : Bench σ V} {n : Nat} :
    (e.resultAt adapter b n).cancelled = true ↔ e.failsAt adapter b n = false ∧ n < e.config.rounds.toNat := by
  simp [resultAt]

/-- A run that a signal cuts short has played a round. -/
theorem CutAt.pos {b : Bench σ V} {total n : Nat} (h : e.CutAt stop adapter b total n) (htotal : 0 < total) :
    0 < n := by
  rcases h.ends with rfl | hends
  · exact htotal
  · cases n with
    | zero => exact absurd hends not_endsAt_zero
    | succ n => exact Nat.succ_pos n

/-- A run that nothing can end early plays all its rounds. -/
theorem CutAt.eq_total {b : Bench σ V} {total n : Nat} (h : e.CutAt none adapter b total n)
    (hflag : e.config.stopOnFirstFailure = false) : n = total := by
  refine h.ends.resolve_right ?_
  cases n with
  | zero => exact not_endsAt_zero
  | succ n => simp [endsAt_succ, hflag, stopRequested]

/-- The result at the cut and the state there cut the course. -/
theorem CutAt.cutsCourse {b b' : Bench σ V} {n : Nat} (hrounds : 1 ≤ e.config.rounds)
    (h : e.CutAt stop adapter b e.config.rounds.toNat n) (hquiet : b'.quiet = (b.after adapter n).quiet) :
    e.CutsCourse stop adapter b (e.resultAt adapter b n) b' := by
  have hpos : 0 < n := h.pos (UInt64.le_iff_toNat_le.mp hrounds)
  have hcount : (e.resultAt adapter b n).roundsCompleted.toNat = n := by
    rw [roundsCompleted_resultAt, UInt64.toNat_ofNat_of_lt' h.lt_size]
  obtain ⟨hgen, hadapter, hsignals⟩ := Bench.quiet_eq_iff.mp hquiet
  constructor
  · rw [hcount]; exact h.eq_length
  · intro hall
    rw [hcount, rounds_resultAt, hall, List.filter_eq_self]
    intro round _
    rfl
  · rw [hcount]; exact hgen
  · rw [hcount]; exact hadapter
  · rw [hcount]; exact hsignals
  · rw [cancelled_resultAt, h.cancelled_iff]
    exact ⟨fun hc => ⟨isSome_of_firstRaise_lt hc.1, hc⟩, fun hc => hc.2⟩
  · intro hc
    have hlt := (cancelled_resultAt.mp hc).2
    have hrequested : (e.resultAt adapter b n).roundsRequested = e.config.rounds :=
      (RunResult.recordAll_frame _ _).2.2.1
    rw [UInt64.le_iff_toNat_le, UInt64.lt_iff_toNat_lt, hrequested, hcount]
    exact ⟨hpos, hlt⟩

/-- **The length of a run and its rounds are known from the course alone.** Over every domain that is not refused, with
any adapter and any signal that is not yet raised, a run of one round or more cuts the course of its bench. -/
theorem run_cutsCourse (e : Engine) (domain : Domain V) (seed : Seed) (stop : Option StopSignal) (adapter : Adapter σ V)
    (state : σ) (signals : Signals) {generator : Generator V} (hdomain : Generator.new domain seed = .ok generator)
    (hrounds : 1 ≤ e.config.rounds) (hstop : stopRequested stop signals = false) :
    ∃ r b', e.drive stop adapter { generator, adapter := state, signals } = (.ok r, b') ∧
      e.run domain seed stop adapter state signals = ⟨.ok r, b'.adapter, b'.signals, b'.log⟩ ∧
      e.CutsCourse stop adapter { generator, adapter := state, signals } r b' := by
  obtain ⟨n, b', hcut, hdrive, hquiet⟩ :=
    drive_eq_resultAt e stop adapter { generator, adapter := state, signals } hrounds hstop
  exact ⟨_, b', hdrive, run_eq_of_drive hdomain hdrive, hcut.cutsCourse hrounds hquiet⟩

/-- The domain of the number seven. -/
def sevens : Domain Int64 where
  label := "[7, 7]"
  details := "[7, 7]"
  sampler := .ok fun d => (7, d.tail)
  equivalent v w := v == w

/-- A bench with the number seven and a memory cell. The interrupt comes in the course of the second write. -/
def interruptedBench : Bench (Watch × Option Int64) Int64 where
  generator := ⟨sevens, fun d => (7, d.tail), ⟨1⟩, .start (.ofSeed 1)⟩
  adapter := (.start [.duringCall 2], none)
  signals := .none

/-- An interrupt in the second of three rounds: two rounds are played, and the run is cancelled. -/
theorem run_cutsCourse_interrupted :
    ∃ r b',
      (Engine.mk { rounds := 3 }).drive (some ⟨0⟩) ((memoryCell Int64).watched ⟨0⟩) interruptedBench = (.ok r, b') ∧
      (Engine.mk { rounds := 3 }).CutsCourse (some ⟨0⟩) ((memoryCell Int64).watched ⟨0⟩) interruptedBench r b' ∧
      r.roundsCompleted = 2 ∧ r.cancelled = true := by
  obtain ⟨r, b', hdrive, -, hcuts⟩ := run_cutsCourse (Engine.mk { rounds := 3 }) sevens ⟨1⟩ (some ⟨0⟩)
    ((memoryCell Int64).watched ⟨0⟩) (.start [.duringCall 2], none) .none rfl (by decide) rfl
  have hvalue : ((Engine.mk { rounds := 3 }).drive (some ⟨0⟩) ((memoryCell Int64).watched ⟨0⟩) interruptedBench).1.map
      (fun r => (r.roundsCompleted, r.cancelled)) = .ok (2, true) := rfl
  rw [interruptedBench, hdrive] at hvalue
  obtain ⟨hcompleted, hcancelled⟩ := Prod.mk.inj (Except.ok.inj hvalue)
  exact ⟨r, b', hdrive, hcuts, hcompleted, hcancelled⟩

end Runs

end Engine

end Readback
