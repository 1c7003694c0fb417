import Readback.Report.Listing
import Readback.Run.Engine

/-!
# Keeping only the failures

Whether a run keeps every round or only those that did not pass changes nothing but the kept rounds that passed. A run
under the one retention is simulated by the same run under the other: after each round the benches are equal, and the
one result is the other with its passing rounds dropped (`RunResult.prune`).

- the simulation is carried through the loop and the whole run (`loop_prune`, `drive_prune`);
- each reader of a result reads the counters, or only rounds that did not pass (`alike_prune`);
- the two runs end on the same bench, with the same log, and with the same refusal or with results that no reader tells
  apart (`run_alike`).
-/

namespace Readback

variable {σ V : Type}

/-! ## Dropping the rounds that passed -/

namespace RunResult

/-- The result, had it kept only its failures. -/
def prune (r : RunResult V) : RunResult V :=
  { r with retention := .failuresOnly, rounds := r.rounds.filter (!·.isPass) }

theorem toList_rounds_prune (r : RunResult V) : r.prune.rounds.toList = r.rounds.toList.filter (!·.isPass) :=
  Array.toList_filter

/-- Recording a round and dropping those that passed can be done in either order. -/
theorem record_prune (r : RunResult V) (h : r.retention = .all) (round : Round V) :
    r.prune.record round = (r.record round).prune := by
  have hkept : (if r.prune.retention = .all ∨ !round.isPass then r.prune.rounds.push round else r.prune.rounds) =
      (r.rounds.push round).filter (!·.isPass) := by
    rw [Array.filter_push]
    by_cases hpass : round.isPass
    · simp [prune, hpass]
    · simp [prune, hpass]
  simp only [record, hkept]
  simp [prune, h]

/-! ## The readers of a result -/

/-- Two results that every reader takes for the same, where the second keeps only the failures of the first. -/
structure Alike [Value V] (full slim : RunResult V) : Prop where
  seed : slim.seed = full.seed
  domain : slim.domain = full.domain
  roundsRequested : slim.roundsRequested = full.roundsRequested
  roundsCompleted : slim.roundsCompleted = full.roundsCompleted
  tally : slim.tally = full.tally
  cancelled : slim.cancelled = full.cancelled
  finished : slim.finished = full.finished
  verdict : slim.verdict = full.verdict
  firstFailure : slim.firstFailure? = full.firstFailure?
  summary : Summary.ofResult slim = Summary.ofResult full
  summaryText : (Summary.ofResult slim).text = (Summary.ofResult full).text
  status : RunStatus.ofResult slim = RunStatus.ofResult full
  exitCode : (RunStatus.ofResult slim).exitCode = (RunStatus.ofResult full).exitCode
  listing : Listing.text slim (Summary.ofResult slim) = Listing.text full (Summary.ofResult full)
  retained : full.retention = .all ∧ slim.retention = .failuresOnly
  kept : slim.rounds.toList = full.rounds.toList.filter (!·.isPass)

/-- The failures are all kept. -/
theorem failures_prune (r : RunResult V) : r.prune.failures = r.failures := by
  rw [failures, toList_rounds_prune, List.filter_filter, failures]
  simp only [Bool.and_self]

theorem firstFailure?_prune (r : RunResult V) : r.prune.firstFailure? = r.firstFailure? := by
  rw [firstFailure?, toList_rounds_prune, List.find?_filter, firstFailure?]
  simp only [and_self, Bool.decide_eq_true]

/-- A summary reads the counters and the first failure. -/
theorem summary_prune [Value V] (r : RunResult V) : Summary.ofResult r.prune = Summary.ofResult r := by
  simp only [Summary.ofResult, firstFailure?_prune]
  rfl

/-- A listing reads the counters and the failures. -/
theorem listing_prune [Value V] (r : RunResult V) (s : Summary) : Listing.text r.prune s = Listing.text r s := by
  simp only [Listing.text, failures_prune]
  rfl

/-- No reader misses the rounds that passed. -/
theorem alike_prune [Value V] (r : RunResult V) (h : r.retention = .all) : Alike r r.prune where
  seed := rfl
  domain := rfl
  roundsRequested := rfl
  roundsCompleted := rfl
  tally := rfl
  cancelled := rfl
  finished := rfl
  verdict := rfl
  firstFailure := r.firstFailure?_prune
  summary := r.summary_prune
  summaryText := by rw [r.summary_prune]
  status := rfl
  exitCode := rfl
  listing := by rw [r.summary_prune, r.listing_prune]
  retained := ⟨h, rfl⟩
  kept := r.toList_rounds_prune

end RunResult

/-! ## The two runs -/

/-- A run in progress, had it kept only its failures. -/
def Progress.prune (p : Progress σ V) : Progress σ V := ⟨p.bench, p.result.prune⟩

@[simp] theorem Progress.prune_bench (p : Progress σ V) : p.prune.bench = p.bench := rfl

@[simp] theorem Progress.prune_result (p : Progress σ V) : p.prune.result = p.result.prune := rfl

namespace Engine

/-- The engine with another retention. -/
def keeping (e : Engine) (retention : Retention) : Engine where
  config := { e.config with retention }

@[simp] theorem rounds_keeping (e : Engine) (retention : Retention) :
    (e.keeping retention).config.rounds = e.config.rounds := rfl

/-- Every round is recorded under the retention that the run started with. -/
theorem loop_retention (e : Engine) (stop : Option StopSignal) (adapter : Adapter σ V) (left : Nat) (index : UInt64)
    (p : Progress σ V) : (e.loop stop adapter left index p).result.retention = p.result.retention := by
  induction left generalizing index p with
  | zero => rfl
  | succ left ih =>
    simp only [loop]
    split
    · rfl
    · split
      · rfl
      · exact ih _ _

/-- The loop that keeps only failures is, round by round, the loop that keeps all of them. -/
theorem loop_prune (e : Engine) (stop : Option StopSignal) (adapter : Adapter σ V) (left : Nat) (index : UInt64)
    (p : Progress σ V) (h : p.result.retention = .all) :
    (e.keeping .failuresOnly).loop stop adapter left index p.prune =
      ((e.keeping .all).loop stop adapter left index p).prune := by
  induction left generalizing index p with
  | zero => rfl
  | succ left ih =>
    have hrecord := p.result.record_prune h (p.bench.play adapter index).1
    simp only [loop, Progress.prune_bench, Progress.prune_result, hrecord]
    by_cases hstop : 0 < index ∧ stopRequested stop p.bench.signals
    · rw [if_pos hstop, if_pos hstop]
      rfl
    · rw [if_neg hstop, if_neg hstop]
      -- Whether a failure ends the run does not depend on the retention: `hfail` decides both conditions.
      by_cases hfail : (!(p.bench.play adapter index).1.isPass && (e.keeping .all).config.stopOnFirstFailure) = true
      · rw [if_pos hfail]
        exact if_pos hfail
      · rw [if_neg hfail]
        exact (if_neg hfail).trans (ih (index + 1) ⟨_, p.result.record _⟩ h)

/-- A run that keeps only failures is the run that keeps all rounds, with its result pruned. -/
theorem drive_prune (e : Engine) (stop : Option StopSignal) (adapter : Adapter σ V) (b : Bench σ V) :
    (e.keeping .failuresOnly).drive stop adapter b =
      (((e.keeping .all).drive stop adapter b).1.map RunResult.prune, ((e.keeping .all).drive stop adapter b).2) := by
  have hvalid : (e.keeping .failuresOnly).config.validate = (e.keeping .all).config.validate := rfl
  have hempty :
      (e.keeping .failuresOnly).emptyResult b.generator = ((e.keeping .all).emptyResult b.generator).prune := rfl
  simp only [drive, hvalid, hempty]
  cases (e.keeping .all).config.validate with
  | error err => rfl
  | ok _ =>
    dsimp only
    split
    · rfl
    · have hloop := e.loop_prune stop adapter e.config.rounds.toNat 0
        ⟨b.report (.started e.config.rounds b.generator.domain.label b.generator.seed),
          (e.keeping .all).emptyResult b.generator⟩ rfl
      simp only [Progress.prune] at hloop
      simp only [rounds_keeping, hloop]
      rfl

/-- A result says which retention it was recorded under. -/
theorem drive_retention (e : Engine) (stop : Option StopSignal) (adapter : Adapter σ V) (b : Bench σ V)
    {r : RunResult V} (h : (e.drive stop adapter b).1 = .ok r) : r.retention = e.config.retention := by
  simp only [drive] at h
  split at h
  · cases h
  · split at h
    · cases h
    · rw [← Except.ok.inj h]
      exact e.loop_retention ..

/-- Two answers of an engine that differ at most in the kept rounds that passed. -/
inductive SameAnswer [Value V] : Except SetupError (RunResult V) → Except SetupError (RunResult V) → Prop
  | refused (err : SetupError) : SameAnswer (.error err) (.error err)
  | ran {full slim : RunResult V} (h : full.Alike slim) : SameAnswer (.ok full) (.ok slim)

theorem drive_sameAnswer [Value V] (e : Engine) (stop : Option StopSignal) (adapter : Adapter σ V) (b : Bench σ V) :
    SameAnswer ((e.keeping .all).drive stop adapter b).1 ((e.keeping .failuresOnly).drive stop adapter b).1 := by
  rw [drive_prune]
  cases hanswer : ((e.keeping .all).drive stop adapter b).1 with
  | error err => exact .refused err
  | ok r => exact .ran (r.alike_prune ((e.keeping .all).drive_retention stop adapter b hanswer))

/-- Two endings of a run that differ at most in the kept rounds that passed. -/
structure Ending.Same [Value V] (full slim : Ending σ V) : Prop where
  answer : SameAnswer full.result slim.result
  adapter : slim.adapter = full.adapter
  signals : slim.signals = full.signals
  log : slim.log = full.log
  lines (threshold : Log.Threshold) : logLines threshold slim.log.toList = logLines threshold full.log.toList

/-- **Retention is invisible but for the kept rounds that passed.** From any bench, and so with any generator,
adapter and signals, an engine that keeps all rounds and the same engine keeping only failures give the same answer and
leave the same bench; and so they do when they are given a domain and a seed. -/
theorem run_alike [Value V] (e : Engine) (stop : Option StopSignal) (adapter : Adapter σ V) :
    (∀ b : Bench σ V,
      SameAnswer ((e.keeping .all).drive stop adapter b).1 ((e.keeping .failuresOnly).drive stop adapter b).1 ∧
        ((e.keeping .failuresOnly).drive stop adapter b).2 = ((e.keeping .all).drive stop adapter b).2) ∧
      ∀ (domain : Domain V) (seed : Seed) (state : σ) (signals : Signals),
        ((e.keeping .all).run domain seed stop adapter state signals).Same
          ((e.keeping .failuresOnly).run domain seed stop adapter state signals) := by
  have hbench (b : Bench σ V) :
      ((e.keeping .failuresOnly).drive stop adapter b).2 = ((e.keeping .all).drive stop adapter b).2 := by
    rw [drive_prune]
  refine ⟨fun b => ⟨e.drive_sameAnswer stop adapter b, hbench b⟩, fun domain seed state signals => ?_⟩
  simp only [run]
  cases Generator.new domain seed with
  | error err => exact ⟨.refused err, rfl, rfl, rfl, fun _ => rfl⟩
  | ok generator =>
    have hb := hbench { generator, adapter := state, signals }
    refine ⟨e.drive_sameAnswer stop adapter _, congrArg Bench.adapter hb, congrArg Bench.signals hb,
      congrArg Bench.log hb, fun threshold => ?_⟩
    dsimp only
    rw [hb]

end Engine

end Readback
