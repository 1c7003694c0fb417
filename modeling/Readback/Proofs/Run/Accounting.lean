import Readback.Adapter.Faulty
import Readback.Proofs.Run.Length

/-!
# The account of a run

A result counts every completed round, kept or not, in counters of 64 bits. `Accounts rounds r` says that the counters
and the kept rounds of `r` are those of the given rounds; recording one more round keeps the account as long as the
rounds can be numbered.

- one record keeps the account (`Accounts.record`), and so do all the records of a run (`accounts_resultAt`);
- every round is handed over with the index that comes next, and no counter overflows (`Accounts.admits`);
- from the account alone follow the sums, the failures and the verdict (`Accounts.total`, `Accounts.failures_eq`,
  `Accounts.verdict_eq_pass_iff`, `Accounts.firstFailure?_eq`);
- a run that is not refused is in balance (`run_balanced`).
-/

namespace Readback

variable {σ V : Type}

/-! ## Rounds at their places -/

namespace Bench

variable (adapter : Adapter σ V) (b : Bench σ V)

/-- A round is numbered by its place. -/
theorem roundAt_index (i : Nat) : (b.roundAt adapter i).index = .ofNat i :=
  ((b.after adapter i).play_draws adapter _).1

theorem mem_firstRounds {n : Nat} {round : Round V} :
    round ∈ b.firstRounds adapter n ↔ ∃ i < n, b.roundAt adapter i = round := by
  simp [firstRounds]

/-- The rounds of a course are numbered from zero on. -/
theorem map_index_firstRounds {n : Nat} (h : n ≤ UInt64.size) :
    (b.firstRounds adapter n).map (·.index.toNat) = List.range n := by
  rw [firstRounds, List.map_map]
  conv_rhs => rw [← List.map_id (List.range n)]
  refine List.map_congr_left fun i hi => ?_
  have hlt : i < UInt64.size := Nat.lt_of_lt_of_le (List.mem_range.mp hi) h
  simp only [Function.comp_apply, roundAt_index, UInt64.toNat_ofNat_of_lt' hlt, id_eq]

/-- Later rounds have higher numbers. -/
theorem pairwise_index_firstRounds {n : Nat} (h : n ≤ UInt64.size) :
    (b.firstRounds adapter n).Pairwise (·.index < ·.index) := by
  have hrange : ((b.firstRounds adapter n).map (·.index.toNat)).Pairwise (· < ·) := by
    rw [map_index_firstRounds adapter b h]
    exact List.pairwise_lt_range
  rw [List.pairwise_map] at hrange
  exact hrange.imp fun hlt => UInt64.lt_iff_toNat_lt.mpr hlt

/-- A round observes nothing exactly if one of its calls failed. -/
theorem observed_roundAt_eq_none_iff (i : Nat) :
    (b.roundAt adapter i).observed = none ↔
      ∃ stage cause, (b.roundAt adapter i).outcome = .adapterError stage cause := by
  rw [roundAt]
  rcases (b.after adapter i).exchange_cases adapter with ⟨e, hw⟩ | ⟨e, hw, hr⟩ | ⟨o, hw, hr, ho⟩ | ⟨o, hw, hr, ho⟩
  · rw [play_of_write_error _ hw]; simp [Round.adapterError]
  · rw [play_of_read_error _ hw hr]; simp [Round.adapterError]
  · rw [play_of_equivalent _ hw hr ho]; simp [Round.pass]
  · rw [play_of_not_equivalent _ hw hr ho]; simp [Round.mismatch]

/-- A mismatch has observed a value. -/
theorem exists_observed_of_mismatch {n : Nat} {round : Round V} (hmem : round ∈ b.firstRounds adapter n)
    (hmismatch : round.outcome = .mismatch) : ∃ o, round.observed = some o := by
  obtain ⟨i, -, rfl⟩ := (b.mem_firstRounds adapter).mp hmem
  refine Option.ne_none_iff_exists'.mp fun hnone => ?_
  obtain ⟨stage, cause, herror⟩ := (b.observed_roundAt_eq_none_iff adapter i).mp hnone
  cases hmismatch.symm.trans herror

end Bench

/-! ## Counting outcomes -/

/-- Every round ends in one of three ways. -/
theorem countP_outcomes (rounds : List (Round V)) :
    rounds.countP (·.outcome = .pass) + rounds.countP (·.outcome = .mismatch) +
      rounds.countP (·.outcome.adapterError?.isSome) = rounds.length := by
  induction rounds with
  | nil => rfl
  | cons round rounds ih =>
    have hround : ((if decide (round.outcome = .pass) then 1 else 0) +
        (if decide (round.outcome = .mismatch) then 1 else 0) +
        if round.outcome.adapterError?.isSome then 1 else 0) = 1 := by
      cases round.outcome <;> rfl
    simp only [List.countP_cons, List.length_cons]
    omega

/-- A round that does not pass is a mismatch or breaks off. -/
theorem countP_not_isPass (rounds : List (Round V)) :
    rounds.countP (!·.isPass) =
      rounds.countP (·.outcome = .mismatch) + rounds.countP (·.outcome.adapterError?.isSome) := by
  induction rounds with
  | nil => rfl
  | cons round rounds ih =>
    have hround : (if !round.isPass then 1 else 0) =
        (if decide (round.outcome = .mismatch) then 1 else 0) +
          if round.outcome.adapterError?.isSome then 1 else 0 := by
      rw [Round.isPass]
      cases round.outcome <;> rfl
    simp only [List.countP_cons]
    omega

/-- A counter of 64 bits that is not full counts one more. -/
theorem toNat_add_one {x : UInt64} {k : Nat} (hx : x.toNat = k) (hk : k + 1 < UInt64.size) :
    (x + 1).toNat = k + 1 := by
  rw [UInt64.toNat_add, hx]
  exact Nat.mod_eq_of_lt hk

namespace RunResult

/-! ## The account -/

/-- The counters and the kept rounds of a result are those of the given rounds. -/
structure Accounts (rounds : List (Round V)) (r : RunResult V) : Prop where
  completed : r.roundsCompleted.toNat = rounds.length
  passed : r.tally.passed.toNat = rounds.countP (·.outcome = .pass)
  mismatched : r.tally.mismatched.toNat = rounds.countP (·.outcome = .mismatch)
  adapterErrors : r.tally.adapterErrors.toNat = rounds.countP (·.outcome.adapterError?.isSome)
  kept : r.rounds.toList = rounds.filter (keeps r.retention)

/-- A round can be handed over to be recorded: it has the index that comes next, and no counter is full. -/
structure Admits (r : RunResult V) (round : Round V) : Prop where
  index_eq : round.index = r.roundsCompleted
  completed_lt : r.roundsCompleted.toNat + 1 < UInt64.size
  passed_lt : r.tally.passed.toNat + 1 < UInt64.size
  mismatched_lt : r.tally.mismatched.toNat + 1 < UInt64.size
  adapterErrors_lt : r.tally.adapterErrors.toNat + 1 < UInt64.size

namespace Accounts

variable {rounds : List (Round V)} {r : RunResult V}

/-- **One more record keeps the account.** -/
theorem record (h : Accounts rounds r) (round : Round V) (hfits : rounds.length + 1 < UInt64.size) :
    Accounts (rounds ++ [round]) (r.record round) := by
  have hlt (p : Round V → Bool) : rounds.countP p + 1 < UInt64.size :=
    Nat.lt_of_le_of_lt (Nat.succ_le_succ List.countP_le_length) hfits
  have hkept := (r.rounds_recordAll [round]).trans (congrArg (· ++ [round].filter (keeps r.retention)) h.kept)
  constructor
  · rw [List.length_append, List.length_singleton]
    exact toNat_add_one h.completed hfits
  · have := toNat_add_one h.passed (hlt _)
    simp only [RunResult.record, List.countP_append, List.countP_singleton]
    cases round.outcome <;> simp [Tally.count, this, h.passed]
  · have := toNat_add_one h.mismatched (hlt _)
    simp only [RunResult.record, List.countP_append, List.countP_singleton]
    cases round.outcome <;> simp [Tally.count, this, h.mismatched]
  · have := toNat_add_one h.adapterErrors (hlt _)
    simp only [RunResult.record, List.countP_append, List.countP_singleton]
    cases round.outcome <;> simp [Tally.count, Outcome.adapterError?, this, h.adapterErrors]
  · rw [List.filter_append]
    exact hkept

/-- The next round of a run can be handed over. -/
theorem admits (h : Accounts rounds r) {round : Round V} (hindex : round.index = .ofNat rounds.length)
    (hfits : rounds.length + 1 < UInt64.size) : r.Admits round := by
  have hlt (p : Round V → Bool) : rounds.countP p + 1 < UInt64.size :=
    Nat.lt_of_le_of_lt (Nat.succ_le_succ List.countP_le_length) hfits
  constructor
  · rw [hindex, ← h.completed, UInt64.ofNat_toNat]
  · rw [h.completed]; exact hfits
  · rw [h.passed]; exact hlt _
  · rw [h.mismatched]; exact hlt _
  · rw [h.adapterErrors]; exact hlt _

/-- The counters add up to the completed rounds. -/
theorem total (h : Accounts rounds r) :
    r.tally.passed.toNat + r.tally.mismatched.toNat + r.tally.adapterErrors.toNat = r.roundsCompleted.toNat := by
  rw [h.passed, h.mismatched, h.adapterErrors, h.completed, countP_outcomes]

/-- The rounds that did not pass are added up without overflow. -/
theorem failed_eq (h : Accounts rounds r) :
    r.tally.failed.toNat = r.tally.mismatched.toNat + r.tally.adapterErrors.toNat := by
  have htotal := h.total
  have hlt := r.roundsCompleted.toNat_lt
  rw [Tally.failed, UInt64.toNat_add]
  exact Nat.mod_eq_of_lt (by omega)

theorem failed_eq_countP (h : Accounts rounds r) : r.tally.failed.toNat = rounds.countP (!·.isPass) := by
  rw [h.failed_eq, h.mismatched, h.adapterErrors, countP_not_isPass]

/-- All failures are kept. -/
theorem failures_eq (h : Accounts rounds r) : r.failures = rounds.filter (!·.isPass) := by
  rw [failures, h.kept, List.filter_filter]
  refine List.filter_congr fun round _ => ?_
  cases hpass : round.isPass <;> simp [keeps, hpass]

theorem length_failures (h : Accounts rounds r) : r.failures.length = r.tally.failed.toNat := by
  rw [h.failures_eq, h.failed_eq_countP, List.countP_eq_length_filter]

/-- **The verdict is a pass exactly if every completed round passed.** -/
theorem verdict_eq_pass_iff (h : Accounts rounds r) :
    r.verdict = .pass ↔ ∀ round ∈ rounds, round.isPass = true := by
  have hzero : r.verdict = .pass ↔ r.tally.failed.toNat = 0 := by
    rw [verdict, ← UInt64.toNat_zero, UInt64.toNat_inj]
    split <;> simp_all
  rw [hzero, h.failed_eq_countP, List.countP_eq_zero]
  simp

/-- The first failure that is kept is the first that was completed. -/
theorem firstFailure?_eq (h : Accounts rounds r) : r.firstFailure? = rounds.find? (!·.isPass) := by
  rw [firstFailure?, ← List.head?_filter, ← List.head?_filter]
  exact congrArg List.head? h.failures_eq

theorem firstFailure?_eq_none_iff (h : Accounts rounds r) : r.firstFailure? = none ↔ r.verdict = .pass := by
  rw [h.firstFailure?_eq, h.verdict_eq_pass_iff, List.find?_eq_none]
  simp

/-- The first failure has the least index of all. -/
theorem index_firstFailure?_le (h : Accounts rounds r) (hindex : rounds.Pairwise (·.index < ·.index)) {f : Round V}
    (hf : r.firstFailure? = some f) :
    f ∈ rounds ∧ f.isPass = false ∧ ∀ round ∈ rounds, round.isPass = false → f.index ≤ round.index := by
  rw [h.firstFailure?_eq, List.find?_eq_some_iff_append] at hf
  obtain ⟨hfail, before, behind, rfl, hbefore⟩ := hf
  refine ⟨by simp, by simpa using hfail, ?_⟩
  intro round hmem hround
  rcases List.mem_append.mp hmem with hin | hin
  · have hpass := hbefore round hin
    simp [hround] at hpass
  · rcases List.mem_cons.mp hin with rfl | hin
    · exact UInt64.le_refl _
    · have hlater := (List.pairwise_append.mp hindex).2.1
      exact UInt64.le_of_lt (List.rel_of_pairwise_cons hlater hin)

end Accounts

end RunResult

/-! ## Runs in balance -/

namespace Engine

variable {e : Engine} {stop : Option StopSignal} {adapter : Adapter σ V} {b : Bench σ V}

/-- A run that has played no round has an empty account. -/
theorem accounts_emptyResult (g : Generator V) : (e.emptyResult g).Accounts [] :=
  ⟨rfl, rfl, rfl, rfl, rfl⟩

/-- **The records of a run keep the account**, round after round. -/
theorem accounts_recordAll (e : Engine) (adapter : Adapter σ V) (b : Bench σ V) :
    ∀ n, n < UInt64.size →
      ((e.emptyResult b.generator).recordAll (b.firstRounds adapter n)).Accounts (b.firstRounds adapter n)
  | 0, _ => accounts_emptyResult b.generator
  | n + 1, hn => by
    have ih := accounts_recordAll e adapter b n (Nat.lt_of_succ_lt hn)
    rw [Bench.firstRounds_succ, RunResult.recordAll_append_singleton]
    exact ih.record _ (by rwa [Bench.length_firstRounds])

/-- The account of the result at the cut. -/
theorem accounts_resultAt (e : Engine) (adapter : Adapter σ V) (b : Bench σ V) {n : Nat} (hn : n < UInt64.size) :
    (e.resultAt adapter b n).Accounts (b.firstRounds adapter n) :=
  have h := accounts_recordAll e adapter b n hn
  ⟨h.completed, h.passed, h.mismatched, h.adapterErrors, h.kept⟩

/-- The account of a result `r` of a run on the bench `b` is in order. The completed rounds are the first of the course,
`r.roundsCompleted` in number. -/
structure Balanced (e : Engine) (adapter : Adapter σ V) (b : Bench σ V) (r : RunResult V) : Prop where
  total : r.tally.passed.toNat + r.tally.mismatched.toNat + r.tally.adapterErrors.toNat = r.roundsCompleted.toNat
  le_requested : r.roundsRequested = e.config.rounds ∧ r.roundsCompleted ≤ r.roundsRequested
  failed_eq : r.tally.failed.toNat = r.tally.mismatched.toNat + r.tally.adapterErrors.toNat
  /-- The result is what the records of the completed rounds leave, one after the other. -/
  recorded : r = { (e.emptyResult b.generator).recordAll (b.firstRounds adapter r.roundsCompleted.toNat) with
    cancelled := r.cancelled
    finished := true }
  accounts : r.Accounts (b.firstRounds adapter r.roundsCompleted.toNat)
  /-- Each round that was recorded could be, when `i` rounds were recorded before it. -/
  admits (i : Nat) : i < r.roundsCompleted.toNat →
    ((e.emptyResult b.generator).recordAll (b.firstRounds adapter i)).Admits (b.roundAt adapter i)
  increasing : r.rounds.toList.Pairwise (·.index < ·.index)
  below : ∀ round ∈ r.rounds.toList, round.index < r.roundsCompleted
  contiguous : e.config.retention = .all →
    r.rounds.toList.map (·.index.toNat) = List.range r.roundsCompleted.toNat
  length_failures : r.failures.length = r.tally.failed.toNat
  observed_iff : ∀ round ∈ r.rounds.toList,
    round.observed = none ↔ ∃ stage cause, round.outcome = .adapterError stage cause
  verdict_iff : r.verdict = .pass ↔ ∀ round ∈ b.firstRounds adapter r.roundsCompleted.toNat, round.isPass = true
  firstFailure_iff : r.firstFailure? = none ↔ r.verdict = .pass
  firstFailure_least (f : Round V) : r.firstFailure? = some f →
    f ∈ b.firstRounds adapter r.roundsCompleted.toNat ∧ f.isPass = false ∧
      ∀ round ∈ b.firstRounds adapter r.roundsCompleted.toNat, round.isPass = false → f.index ≤ round.index

/-- What is kept at the cut was completed before it. -/
theorem mem_rounds_resultAt {n : Nat} {round : Round V} (h : round ∈ (e.resultAt adapter b n).rounds.toList) :
    ∃ i < n, b.roundAt adapter i = round := by
  rw [rounds_resultAt, List.mem_filter] at h
  exact (b.mem_firstRounds adapter).mp h.1

/-- The result at the cut is in balance. -/
theorem CutAt.balanced {n : Nat} (h : e.CutAt stop adapter b e.config.rounds.toNat n) :
    e.Balanced adapter b (e.resultAt adapter b n) := by
  have hacc := accounts_resultAt e adapter b h.lt_size
  have hcount : (e.resultAt adapter b n).roundsCompleted.toNat = n := by
    rw [hacc.completed, Bench.length_firstRounds]
  have hrequested : (e.resultAt adapter b n).roundsRequested = e.config.rounds :=
    (RunResult.recordAll_frame _ _).2.2.1
  have hsorted := b.pairwise_index_firstRounds adapter (Nat.le_of_lt h.lt_size)
  constructor
  · exact hacc.total
  · refine ⟨hrequested, ?_⟩
    rw [UInt64.le_iff_toNat_le, hrequested, hcount]
    exact h.le_total
  · exact hacc.failed_eq
  · rw [hcount]; rfl
  · rw [hcount]; exact hacc
  · intro i hi
    rw [hcount] at hi
    have hi' : i + 1 < UInt64.size := Nat.lt_of_le_of_lt hi h.lt_size
    refine (accounts_recordAll e adapter b i (Nat.lt_of_succ_lt hi')).admits ?_ ?_
    · rw [Bench.roundAt_index, Bench.length_firstRounds]
    · rwa [Bench.length_firstRounds]
  · rw [rounds_resultAt]
    exact hsorted.filter _
  · intro round hround
    obtain ⟨i, hi, rfl⟩ := mem_rounds_resultAt hround
    rw [UInt64.lt_iff_toNat_lt, hcount, Bench.roundAt_index, UInt64.toNat_ofNat_of_lt' (Nat.lt_trans hi h.lt_size)]
    exact hi
  · intro hall
    have hkeep : (b.firstRounds adapter n).filter (RunResult.keeps .all) = b.firstRounds adapter n :=
      List.filter_eq_self.mpr fun _ _ => rfl
    rw [hcount, rounds_resultAt, hall, hkeep, Bench.map_index_firstRounds adapter b (Nat.le_of_lt h.lt_size)]
  · exact hacc.length_failures
  · intro round hround
    obtain ⟨i, -, rfl⟩ := mem_rounds_resultAt hround
    exact b.observed_roundAt_eq_none_iff adapter i
  · rw [hcount]; exact hacc.verdict_eq_pass_iff
  · exact hacc.firstFailure?_eq_none_iff
  · intro f hf
    rw [hcount]
    exact hacc.index_firstFailure?_le hsorted hf

/-! ## Runs that are not refused -/

/-- Only a run of one round or more, with a signal that is not yet raised, has a result. -/
theorem drive_ok {r : RunResult V} (h : (e.drive stop adapter b).1 = .ok r) :
    1 ≤ e.config.rounds ∧ stopRequested stop b.signals = false := by
  by_cases hzero : e.config.rounds = 0
  · rw [drive, Config.validate, if_pos hzero] at h
    cases h
  · rw [drive, Config.validate, if_neg hzero] at h
    have hpos : 1 ≤ e.config.rounds := by
      have hne : e.config.rounds.toNat ≠ 0 := fun h0 => hzero (UInt64.toNat_inj.mp h0)
      exact UInt64.le_iff_toNat_le.mpr (Nat.pos_of_ne_zero hne)
    cases hstop : stopRequested stop b.signals with
    | false => exact ⟨hpos, rfl⟩
    | true =>
      rw [hstop] at h
      cases h

/-- A result is the one at the cut of the course. -/
theorem drive_ok_cases {r : RunResult V} (h : (e.drive stop adapter b).1 = .ok r) :
    ∃ n b', e.CutAt stop adapter b e.config.rounds.toNat n ∧ r = e.resultAt adapter b n ∧
      e.drive stop adapter b = (.ok r, b') ∧ b'.quiet = (b.after adapter n).quiet := by
  obtain ⟨hrounds, hstop⟩ := drive_ok h
  obtain ⟨n, b', hcut, hdrive, hquiet⟩ := drive_eq_resultAt e stop adapter b hrounds hstop
  rw [hdrive] at h
  obtain rfl := Except.ok.inj h
  exact ⟨n, b', hcut, rfl, hdrive, hquiet⟩

theorem drive_balanced {r : RunResult V} (h : (e.drive stop adapter b).1 = .ok r) : e.Balanced adapter b r := by
  obtain ⟨n, -, hcut, rfl, -⟩ := drive_ok_cases h
  exact hcut.balanced

/-- A run with a result has a generator, and is a run on the bench with it. -/
theorem run_ok {domain : Domain V} {seed : Seed} {state : σ} {signals : Signals} {r : RunResult V}
    (h : (e.run domain seed stop adapter state signals).result = .ok r) :
    ∃ generator, Generator.new domain seed = .ok generator ∧
      (e.drive stop adapter { generator, adapter := state, signals }).1 = .ok r := by
  rw [run] at h
  cases hnew : Generator.new domain seed with
  | error err =>
    rw [hnew] at h
    cases h
  | ok generator =>
    rw [hnew] at h
    exact ⟨generator, rfl, h⟩

/-- **Every result of a run is in balance**, whatever the domain, the adapter, the signal, the retention and the number
of rounds, and whether the run makes its generator or is given one. -/
theorem run_balanced (e : Engine) (stop : Option StopSignal) (adapter : Adapter σ V) :
    (∀ (domain : Domain V) (seed : Seed) (state : σ) (signals : Signals) (r : RunResult V),
      (e.run domain seed stop adapter state signals).result = .ok r →
        ∃ generator, Generator.new domain seed = .ok generator ∧
          e.Balanced adapter { generator, adapter := state, signals } r) ∧
      ∀ (generator : Generator V) (state : σ) (signals : Signals) (r : RunResult V),
        (e.runWith generator adapter state signals).1.result = .ok r →
          e.Balanced adapter { generator, adapter := state, signals } r := by
  constructor
  · intro domain seed state signals r h
    obtain ⟨generator, hnew, hdrive⟩ := run_ok h
    exact ⟨generator, hnew, drive_balanced hdrive⟩
  · intro generator state signals r h
    exact drive_balanced h

/-- A cell that held three, with the first write dropped and the second failing, and the number seven to write. -/
def mixedBench : Bench (Injector × Option Int64) Int64 where
  generator := ⟨sevens, fun d => (7, d.tail), ⟨1⟩, .start (.ofSeed 1)⟩
  adapter := ({ faults := [.dropWrite 0, .failWrite 1] }, some 3)
  signals := .none

/-- Three rounds on the bench of mixed outcomes: one of each kind, of which the two that did not pass are kept. -/
theorem run_balanced_mixed :
    ∃ r : RunResult Int64,
      ((Engine.mk ⟨3, false, .failuresOnly⟩).run sevens ⟨1⟩ none (memoryCell Int64).faulty mixedBench.adapter
        .none).result = .ok r ∧
      (Engine.mk ⟨3, false, .failuresOnly⟩).Balanced (memoryCell Int64).faulty mixedBench r ∧
      r.tally = ⟨1, 1, 1⟩ ∧ r.failures.length = 2 := by
  obtain ⟨r, hrun, htally⟩ : ∃ r : RunResult Int64,
      ((Engine.mk ⟨3, false, .failuresOnly⟩).run sevens ⟨1⟩ none (memoryCell Int64).faulty mixedBench.adapter
        .none).result = .ok r ∧ r.tally = ⟨1, 1, 1⟩ :=
    ⟨_, rfl, rfl⟩
  obtain ⟨generator, hnew, hbalanced⟩ := (run_balanced (Engine.mk ⟨3, false, .failuresOnly⟩) none
    (memoryCell Int64).faulty).1 sevens ⟨1⟩ mixedBench.adapter .none r hrun
  obtain rfl := Except.ok.inj hnew
  refine ⟨r, hrun, hbalanced, htally, ?_⟩
  rw [hbalanced.length_failures, htally]
  rfl

end Engine

end Readback
