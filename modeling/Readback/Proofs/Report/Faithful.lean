import Readback.Proofs.Run.Accounting
import Readback.Proofs.Seed.Grammar
import Readback.Report.Summary

/-!
# Summaries that can be trusted

A summary takes its verdict from the counters of a result and the failure it tells of from the rounds that were kept.
That the two never contradict each other is no matter of the summary but of the account that it is made from.

- a round that did not pass is described in full, without a placeholder (`exists_describes`);
- from an account in order, the failure that is told is the first of all completed rounds
  (`Accounts.firstFailure_cases`) and the line has the shape that belongs to it (`Accounts.headline`);
- a seed is read back from its own text (`Seed.parse_text`), so the line ends in what replays the run;
- the summary of every run that is not refused is faithful (`run_summary_faithful`).
-/

namespace Readback

variable {σ V : Type}

/-- A seed is read back from its own text. -/
theorem Seed.parse_text (seed : Seed) : Seed.parse seed.text = .ok seed := by
  have hshows : Seed.Shows seed seed.text := .decimal
  have hblank : Text.Blank "" := by decide
  have h := hshows.parse hblank hblank
  rwa [String.empty_append, String.append_empty] at h

/-! ## What is said of a round -/

/-- What went wrong in a round, in full: its index, the value written, and the value read back or the stage that failed
and why. -/
inductive FailureDetail.Describes [Value V] (round : Round V) : FailureDetail → Prop
  | mismatch {o : V} : round.outcome = .mismatch → round.observed = some o →
      Describes round (.mismatch round.index (Value.text round.input) (Value.text o))
  | adapterError {stage : Stage} {cause : String} : round.outcome = .adapterError stage cause →
      Describes round (.adapterError round.index (Value.text round.input) stage cause)

/-- **A round that did not pass is described in full**, without a placeholder. -/
theorem FailureDetail.exists_describes [Value V] {round : Round V} (hfail : round.isPass = false)
    (hobserved : round.outcome = .mismatch → ∃ o, round.observed = some o) :
    ∃ d, FailureDetail.ofRound? round = some d ∧ FailureDetail.Describes round d := by
  unfold FailureDetail.ofRound?
  cases houtcome : round.outcome with
  | pass => simp [Round.isPass, houtcome, Outcome.isPass] at hfail
  | mismatch =>
    obtain ⟨o, ho⟩ := hobserved houtcome
    refine ⟨_, rfl, ?_⟩
    rw [ho]
    exact .mismatch houtcome ho
  | adapterError stage cause => exact ⟨_, rfl, .adapterError houtcome⟩

/-- The first of some rounds that did not pass: no other has a lower index. -/
structure Round.IsFirstFailure (rounds : List (Round V)) (f : Round V) : Prop where
  mem : f ∈ rounds
  failed : f.isPass = false
  least : ∀ round ∈ rounds, round.isPass = false → f.index ≤ round.index

/-! ## What is said of a run -/

/-- How the line about a run begins: with the number of its rounds if all of them passed, else with the first that did
not. -/
inductive Summary.Headline [Value V] (rounds : List (Round V)) : String → Prop
  | passed : (∀ round ∈ rounds, round.isPass = true) →
      Headline rounds ("PASS: " ++ Numeral.natText rounds.length ++ "/" ++ Numeral.natText rounds.length ++
        " rounds passed")
  | mismatch {f : Round V} {o : V} : f.IsFirstFailure rounds → f.outcome = .mismatch → f.observed = some o →
      Headline rounds ("FAIL at round " ++ Numeral.natText f.index.toNat ++ ": expected " ++ Value.text f.input ++
        ", observed " ++ Value.text o)
  | adapterError {f : Round V} {stage : Stage} {cause : String} : f.IsFirstFailure rounds →
      f.outcome = .adapterError stage cause →
      Headline rounds ("FAIL at round " ++ Numeral.natText f.index.toNat ++ ": " ++ stage.text ++ " failed: " ++ cause)

/-- How far a run came that was cut short. -/
def Summary.cutShort (cancelled : Bool) (completed requested : Nat) : String :=
  if cancelled then
    " (cancelled after " ++ Numeral.natText completed ++ "/" ++ Numeral.natText requested ++ " rounds)"
  else ""

/-- What a summary `s` says is so of a run from this seed that completed these rounds of those requested, and that was
cancelled or not. -/
structure Summary.Faithful [Value V] (seed : Seed) (requested : UInt64) (cancelled : Bool) (rounds : List (Round V))
    (s : Summary) : Prop where
  header : s.seed = seed ∧ s.roundsRequested = requested ∧ s.cancelled = cancelled
  completed : s.roundsCompleted.toNat = rounds.length
  total : s.passed.toNat + s.failed.toNat = s.roundsCompleted.toNat
  failed : s.failed.toNat = rounds.countP (!·.isPass)
  verdict_iff : s.verdict = .fail ↔ 0 < s.failed
  firstFailure_iff : s.firstFailure.isSome = true ↔ 0 < s.failed
  firstFailure_describes (d : FailureDetail) : s.firstFailure = some d →
    ∃ f, f.IsFirstFailure rounds ∧ FailureDetail.Describes f d
  line : ∃ headline digits, Headline rounds headline ∧ Seed.parse digits = .ok seed ∧
    s.text = headline ++ cutShort cancelled rounds.length requested.toNat ++ " (seed " ++ digits ++ ")"

/-- The verdict is a failure exactly if a round is counted as one. -/
theorem RunResult.verdict_eq_fail_iff {r : RunResult V} : r.verdict = .fail ↔ 0 < r.tally.failed := by
  rw [UInt64.pos_iff_ne_zero, verdict]
  split
  · next hzero => simp [hzero]
  · next hne => simp [hne]

namespace RunResult.Accounts

variable {rounds : List (Round V)} {r : RunResult V}

/-- If every round passed, all are counted so. -/
theorem passed_eq_length (h : Accounts rounds r) (hall : ∀ round ∈ rounds, round.isPass = true) :
    r.tally.passed.toNat = rounds.length := by
  rw [h.passed, List.countP_eq_length]
  intro round hmem
  have hpass := hall round hmem
  cases houtcome : round.outcome <;> simp [Round.isPass, houtcome, Outcome.isPass] at hpass ⊢

variable [Value V] (h : Accounts rounds r) (hindex : rounds.Pairwise (·.index < ·.index))
  (hobserved : ∀ round ∈ rounds, round.outcome = .mismatch → ∃ o, round.observed = some o)

include h hindex hobserved

/-- **The failure that a summary tells**: none if all rounds passed, else the first, in full. -/
theorem firstFailure_cases :
    ((Summary.ofResult r).firstFailure = none ∧ r.verdict = .pass ∧ ∀ round ∈ rounds, round.isPass = true) ∨
    ∃ f d, (Summary.ofResult r).firstFailure = some d ∧ r.verdict = .fail ∧ f.IsFirstFailure rounds ∧
      FailureDetail.Describes f d := by
  cases hfirst : r.firstFailure? with
  | none =>
    have hpass := h.firstFailure?_eq_none_iff.mp hfirst
    refine .inl ⟨?_, hpass, h.verdict_eq_pass_iff.mp hpass⟩
    simp [Summary.ofResult, hfirst]
  | some f =>
    obtain ⟨hmem, hfail, hleast⟩ := h.index_firstFailure?_le hindex hfirst
    obtain ⟨d, hd, hdescribes⟩ := FailureDetail.exists_describes hfail (hobserved f hmem)
    have hverdict : r.verdict = .fail := by
      cases hv : r.verdict with
      | fail => rfl
      | pass =>
        rw [h.firstFailure?_eq_none_iff.mpr hv] at hfirst
        cases hfirst
    refine .inr ⟨f, d, ?_, hverdict, ⟨hmem, hfail, hleast⟩, hdescribes⟩
    simp [Summary.ofResult, hfirst, hd]

/-- **The line begins as it should.** -/
theorem headline : Summary.Headline rounds (Summary.ofResult r).headline := by
  rcases h.firstFailure_cases hindex hobserved with
    ⟨hnone, hverdict, hall⟩ | ⟨f, d, hsome, hverdict, hfirst, hdescribes⟩
  · have hline : (Summary.ofResult r).headline = "PASS: " ++ Event.counter r.tally.passed ++ "/" ++
        Event.counter r.roundsCompleted ++ " rounds passed" := by
      rw [Summary.headline, hnone]
      simp only [Summary.ofResult, hverdict]
      rfl
    rw [hline, Event.counter, Event.counter, h.passed_eq_length hall, h.completed]
    exact .passed hall
  · rw [Summary.headline, hsome]
    simp only [Summary.ofResult, hverdict]
    cases hdescribes with
    | mismatch houtcome hobserved => exact .mismatch hfirst houtcome hobserved
    | adapterError houtcome => exact .adapterError hfirst houtcome

/-- **A summary made from an account in order is faithful.** -/
theorem faithful : Summary.Faithful r.seed r.roundsRequested r.cancelled rounds (Summary.ofResult r) where
  header := ⟨rfl, rfl, rfl⟩
  completed := h.completed
  total := by
    have htotal := h.total
    have hfailed := h.failed_eq
    simp only [Summary.ofResult]
    omega
  failed := h.failed_eq_countP
  verdict_iff := verdict_eq_fail_iff
  firstFailure_iff := by
    show _ ↔ 0 < r.tally.failed
    rw [← verdict_eq_fail_iff]
    rcases h.firstFailure_cases hindex hobserved with ⟨hnone, hverdict, -⟩ | ⟨f, d, hsome, hverdict, -⟩
    · simp [hnone, hverdict]
    · simp [hsome, hverdict]
  firstFailure_describes d hd := by
    rcases h.firstFailure_cases hindex hobserved with ⟨hnone, -⟩ | ⟨f, d', hsome, -, hfirst, hdescribes⟩
    · cases hnone.symm.trans hd
    · obtain rfl := Option.some.inj (hsome.symm.trans hd)
      exact ⟨f, hfirst, hdescribes⟩
  line := by
    refine ⟨_, r.seed.text, h.headline hindex hobserved, r.seed.parse_text, ?_⟩
    rw [← h.completed]
    rfl

end RunResult.Accounts

/-! ## Summaries of runs -/

namespace Engine

variable [Value V] {e : Engine} {stop : Option StopSignal} {adapter : Adapter σ V} {b : Bench σ V}

theorem drive_summary_faithful {r : RunResult V} (h : (e.drive stop adapter b).1 = .ok r) :
    Summary.Faithful b.generator.seed e.config.rounds r.cancelled (b.firstRounds adapter r.roundsCompleted.toNat)
      (Summary.ofResult r) := by
  have hbalanced := drive_balanced h
  have hseed : r.seed = b.generator.seed := by
    rw [hbalanced.recorded]
    exact (RunResult.recordAll_frame _ _).1
  have hindex := b.pairwise_index_firstRounds adapter (Nat.le_of_lt r.roundsCompleted.toNat_lt)
  have hfaithful := hbalanced.accounts.faithful hindex fun round => b.exists_observed_of_mismatch adapter
  rwa [hseed, hbalanced.le_requested.1] at hfaithful

/-- **The summary of a run is faithful**, whatever is kept of the run and however it ends: the counters add up, the
verdict, the failure that is told and the shape of the line belong together, the failure is the first of all completed
rounds that did not pass, and the line ends in digits that are read as the seed of the run. -/
theorem run_summary_faithful (e : Engine) (stop : Option StopSignal) (adapter : Adapter σ V) :
    (∀ (domain : Domain V) (seed : Seed) (state : σ) (signals : Signals) (r : RunResult V),
      (e.run domain seed stop adapter state signals).result = .ok r →
        ∃ generator, Generator.new domain seed = .ok generator ∧
          Summary.Faithful seed e.config.rounds r.cancelled
            (Bench.firstRounds adapter ⟨generator, state, signals, #[]⟩ r.roundsCompleted.toNat)
            (Summary.ofResult r)) ∧
      ∀ (generator : Generator V) (state : σ) (signals : Signals) (r : RunResult V),
        (e.runWith generator adapter state signals).1.result = .ok r →
          Summary.Faithful generator.seed e.config.rounds r.cancelled
            (Bench.firstRounds adapter ⟨generator, state, signals, #[]⟩ r.roundsCompleted.toNat)
            (Summary.ofResult r) := by
  constructor
  · intro domain seed state signals r h
    obtain ⟨generator, hnew, hdrive⟩ := run_ok h
    refine ⟨generator, hnew, ?_⟩
    rw [← Generator.seed_of_new hnew]
    exact drive_summary_faithful hdrive
  · intro generator state signals r h
    exact drive_summary_faithful h

/-- A cell that held three, with the first write dropped, and an interrupt in the course of the second. -/
def cutShortState : Watch × Injector × Option Int64 :=
  (.start [.duringCall 2], { faults := [.dropWrite 0] }, some 3)

/-- Of three rounds, the first is a mismatch and the second is the last; only the first is kept. -/
theorem run_summary_faithful_cut_short :
    ∃ r generator, ((Engine.mk ⟨3, false, .failuresOnly⟩).run sevens ⟨1⟩ (some ⟨0⟩)
        ((memoryCell Int64).faulty.watched ⟨0⟩) cutShortState .none).result = .ok r ∧
      Summary.Faithful ⟨1⟩ 3 true
        (Bench.firstRounds ((memoryCell Int64).faulty.watched ⟨0⟩) ⟨generator, cutShortState, .none, #[]⟩ 2)
        (Summary.ofResult r) ∧
      (Summary.ofResult r).text =
        "FAIL at round 0: expected 7, observed 3 (cancelled after 2/3 rounds) (seed 1)" := by
  obtain ⟨r, hrun, hcompleted, hcancelled, htext⟩ : ∃ r, ((Engine.mk ⟨3, false, .failuresOnly⟩).run sevens ⟨1⟩
      (some ⟨0⟩) ((memoryCell Int64).faulty.watched ⟨0⟩) cutShortState .none).result = .ok r ∧
      r.roundsCompleted = 2 ∧ r.cancelled = true ∧ (Summary.ofResult r).text =
        "FAIL at round 0: expected 7, observed 3 (cancelled after 2/3 rounds) (seed 1)" :=
    ⟨_, rfl, rfl, rfl, rfl⟩
  obtain ⟨generator, -, hfaithful⟩ := (run_summary_faithful (Engine.mk ⟨3, false, .failuresOnly⟩) (some ⟨0⟩)
    ((memoryCell Int64).faulty.watched ⟨0⟩)).1 sevens ⟨1⟩ cutShortState .none r hrun
  rw [hcompleted, hcancelled] at hfaithful
  exact ⟨r, generator, hrun, hfaithful, htext⟩

end Engine

end Readback
