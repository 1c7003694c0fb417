import Mathlib.Data.List.Forall2
import Readback.Proofs.Run.Course

/-!
# Runs against adapters that answer alike

Two adapters answer alike if, from related states on, their calls give the same values or fail together, raise the same
signals and lead to related states again (`Adapter.Simulates`). The causes of failed calls need not be the same: a rule
says which causes are taken for each other at which stage.

- one round against the one is one round against the other (`play_agree`);
- so are the loop and the whole run (`loop_agree`, `drive_agree`, `run_agree`): the same refusal, or results that agree
  but for the causes;
- if the causes have to be the same, the results are equal (`AnswersAgree.eq`).
-/

namespace Readback

variable {σ τ V : Type}

/-- Which causes are taken for each other, for each stage. -/
abbrev CauseRule := Stage → String → String → Prop

/-! ## Adapters -/

/-- Two answers to a call: the same value, or errors with related causes. -/
inductive AnswersAlike {α : Type} (cause : String → String → Prop) :
    Except AdapterError α → Except AdapterError α → Prop
  | ok (a : α) : AnswersAlike cause (.ok a) (.ok a)
  | error {e e' : AdapterError} : cause e.cause e'.cause → AnswersAlike cause (.error e) (.error e')

theorem AnswersAlike.of_ok {α : Type} {cause : String → String → Prop} {x y : Except AdapterError α} {v : α}
    (h : AnswersAlike cause x y) (hx : x = .ok v) : y = .ok v := by
  subst hx
  cases h
  rfl

theorem AnswersAlike.of_error {α : Type} {cause : String → String → Prop} {x y : Except AdapterError α}
    {e : AdapterError} (h : AnswersAlike cause x y) (hx : x = .error e) :
    ∃ e', y = .error e' ∧ cause e.cause e'.cause := by
  subst hx
  cases h with
  | error hc => exact ⟨_, rfl, hc⟩

/-- Two replies to a call: answers that are alike, the same signals, and related states. -/
structure Reply.Alike {α : Type} (cause : String → String → Prop) (R : σ → τ → Prop) (r : Reply σ α) (r' : Reply τ α) :
    Prop where
  answer : AnswersAlike cause r.answer r'.answer
  state : R r.state r'.state
  raises : r'.raises = r.raises

/-- In related states the two adapters reply alike to every call. -/
structure Adapter.Simulates (cause : CauseRule) (R : σ → τ → Prop) (a : Adapter σ V) (a' : Adapter τ V) : Prop where
  write {s : σ} {t : τ} (v : V) : R s t → (a.write v s).Alike (cause .write) R (a'.write v t)
  read {s : σ} {t : τ} : R s t → (a.read s).Alike (cause .read) R (a'.read t)

/-! ## Rounds and results -/

/-- Two outcomes: the same, or failures of the same stage with related causes. -/
inductive Outcome.Agree (cause : CauseRule) : Outcome → Outcome → Prop
  | pass : Outcome.Agree cause .pass .pass
  | mismatch : Outcome.Agree cause .mismatch .mismatch
  | adapterError {stage : Stage} {c c' : String} : cause stage c c' →
      Outcome.Agree cause (.adapterError stage c) (.adapterError stage c')

/-- Two rounds that are the same but for the cause of a failed call. -/
structure Round.Agree (cause : CauseRule) (x y : Round V) : Prop where
  index : y.index = x.index
  input : y.input = x.input
  observed : y.observed = x.observed
  outcome : x.outcome.Agree cause y.outcome

/-- Two results that are the same but for the causes of failed calls. -/
structure RunResult.Agree (cause : CauseRule) (r r' : RunResult V) : Prop where
  seed : r'.seed = r.seed
  domain : r'.domain = r.domain
  roundsRequested : r'.roundsRequested = r.roundsRequested
  roundsCompleted : r'.roundsCompleted = r.roundsCompleted
  retention : r'.retention = r.retention
  tally : r'.tally = r.tally
  cancelled : r'.cancelled = r.cancelled
  finished : r'.finished = r.finished
  rounds : List.Forall₂ (Round.Agree cause) r.rounds.toList r'.rounds.toList

/-- Two benches that are the same but for their logs, with related states of their adapters. -/
structure Bench.Agree (R : σ → τ → Prop) (b : Bench σ V) (b' : Bench τ V) : Prop where
  generator : b'.generator = b.generator
  signals : b'.signals = b.signals
  adapter : R b.adapter b'.adapter

variable {cause : CauseRule} {R : σ → τ → Prop} {a : Adapter σ V} {a' : Adapter τ V}

theorem Outcome.Agree.isPass {x y : Outcome} (h : x.Agree cause y) : y.isPass = x.isPass := by
  cases h <;> rfl

theorem Outcome.Agree.count {x y : Outcome} (h : x.Agree cause y) (t : Tally) : t.count y = t.count x := by
  cases h <;> rfl

theorem Round.Agree.isPass {x y : Round V} (h : x.Agree cause y) : y.isPass = x.isPass := h.outcome.isPass

/-- A result and the one that agrees with it have the same verdict. -/
theorem RunResult.Agree.verdict {r r' : RunResult V} (h : r.Agree cause r') : r'.verdict = r.verdict := by
  rw [RunResult.verdict, RunResult.verdict, h.tally]

/-- Recording rounds that agree keeps results that agree. -/
theorem RunResult.Agree.record {r r' : RunResult V} {x y : Round V} (h : r.Agree cause r') (hxy : x.Agree cause y) :
    (r.record x).Agree cause (r'.record y) := by
  refine ⟨h.seed, h.domain, h.roundsRequested, ?_, h.retention, ?_, h.cancelled, h.finished, ?_⟩
  · simp only [RunResult.record, h.roundsCompleted]
  · simp only [RunResult.record, h.tally, hxy.outcome.count]
  · simp only [RunResult.record, h.retention, hxy.isPass]
    split
    · simp only [Array.toList_push]
      exact List.rel_append h.rounds (.cons hxy .nil)
    · exact h.rounds

/-! ## One round -/

namespace Bench

/-- Benches that agree take over replies that are alike. -/
theorem Agree.absorb {α : Type} {c : String → String → Prop} {b : Bench σ V} {b' : Bench τ V} (h : b.Agree R b')
    {r : Reply σ α} {r' : Reply τ α} (hr : r.Alike c R r') : (b.absorb r).Agree R (b'.absorb r') where
  generator := h.generator
  signals := by simp only [Bench.absorb, h.signals, hr.raises]
  adapter := hr.state

/-- What is logged does not matter. -/
theorem Agree.report {b : Bench σ V} {b' : Bench τ V} (h : b.Agree R b') (x y : Event V) :
    (b.report x).Agree R (b'.report y) := ⟨h.generator, h.signals, h.adapter⟩

theorem Agree.writeReply {b : Bench σ V} {b' : Bench τ V} (h : b.Agree R b') (sim : a.Simulates cause R a') :
    (b.writeReply a).Alike (cause .write) R (b'.writeReply a') := by
  rw [Bench.writeReply, Bench.writeReply, h.generator]
  exact sim.write _ h.adapter

theorem Agree.readReply {b : Bench σ V} {b' : Bench τ V} (h : b.Agree R b') (sim : a.Simulates cause R a') :
    (b.readReply a).Alike (cause .read) R (b'.readReply a') := sim.read (h.writeReply sim).state

theorem Agree.written {b : Bench σ V} {b' : Bench τ V} (h : b.Agree R b') (sim : a.Simulates cause R a')
    (index : UInt64) : (b.written a index).Agree R (b'.written a' index) := by
  refine Agree.absorb (Agree.report ?_ _ _) (h.writeReply sim)
  exact ⟨by rw [h.generator], h.signals, h.adapter⟩

theorem Agree.readBack {b : Bench σ V} {b' : Bench τ V} (h : b.Agree R b') (sim : a.Simulates cause R a')
    (index : UInt64) : (b.readBack a index).Agree R (b'.readBack a' index) :=
  (h.written sim index).absorb (h.readReply sim)

/-- **One round against the one adapter is one round against the other.** -/
theorem play_agree {b : Bench σ V} {b' : Bench τ V} (h : b.Agree R b') (sim : a.Simulates cause R a')
    (index : UInt64) :
    (b.play a index).1.Agree cause (b'.play a' index).1 ∧ (b.play a index).2.Agree R (b'.play a' index).2 := by
  have hwrite := (h.writeReply sim).answer
  have hread := (h.readReply sim).answer
  have hinput : b'.generator.next.1 = b.generator.next.1 := by rw [h.generator]
  have hdomain : b'.generator.domain = b.generator.domain := by rw [h.generator]
  rcases b.exchange_cases a with ⟨e, hw⟩ | ⟨e, hw, hr⟩ | ⟨o, hw, hr, ho⟩ | ⟨o, hw, hr, ho⟩
  · obtain ⟨e', hw', hc⟩ := hwrite.of_error hw
    rw [play_of_write_error index hw, play_of_write_error index hw']
    exact ⟨⟨rfl, hinput, rfl, .adapterError hc⟩, (h.written sim index).report _ _⟩
  · obtain ⟨e', hr', hc⟩ := hread.of_error hr
    rw [play_of_read_error index hw hr, play_of_read_error index (hwrite.of_ok hw) hr']
    exact ⟨⟨rfl, hinput, rfl, .adapterError hc⟩, (h.readBack sim index).report _ _⟩
  · have ho' : b'.generator.domain.equivalent b'.generator.next.1 o = true := by rw [hinput, hdomain, ho]
    rw [play_of_equivalent index hw hr ho, play_of_equivalent index (hwrite.of_ok hw) (hread.of_ok hr) ho']
    exact ⟨⟨rfl, hinput, rfl, .pass⟩, h.readBack sim index⟩
  · have ho' : b'.generator.domain.equivalent b'.generator.next.1 o = false := by rw [hinput, hdomain, ho]
    rw [play_of_not_equivalent index hw hr ho, play_of_not_equivalent index (hwrite.of_ok hw) (hread.of_ok hr) ho']
    exact ⟨⟨rfl, hinput, rfl, .mismatch⟩, (h.readBack sim index).report _ _⟩

end Bench

/-! ## Runs -/

namespace Engine

/-- The loop against the one adapter is the loop against the other. -/
theorem loop_agree (e : Engine) (stop : Option StopSignal) (sim : a.Simulates cause R a') (left : Nat) (index : UInt64)
    {b : Bench σ V} {b' : Bench τ V} {r r' : RunResult V} (hb : b.Agree R b') (hr : r.Agree cause r') :
    (e.loop stop a left index ⟨b, r⟩).bench.Agree R (e.loop stop a' left index ⟨b', r'⟩).bench ∧
      (e.loop stop a left index ⟨b, r⟩).result.Agree cause (e.loop stop a' left index ⟨b', r'⟩).result := by
  induction left generalizing index b b' r r' with
  | zero => exact ⟨hb, hr⟩
  | succ left ih =>
    obtain ⟨hround, hbench⟩ := Bench.play_agree hb sim index
    simp only [loop, hb.signals, hround.isPass]
    split
    · exact ⟨hb.report _ _,
        ⟨hr.seed, hr.domain, hr.roundsRequested, hr.roundsCompleted, hr.retention, hr.tally, rfl, hr.finished,
          hr.rounds⟩⟩
    · split
      · exact ⟨hbench.report _ _, hr.record hround⟩
      · exact ih (index + 1) hbench (hr.record hround)

/-- Two answers of an engine: the same refusal, or results that agree but for the causes of failed calls. -/
inductive AnswersAgree (cause : CauseRule) : Except SetupError (RunResult V) → Except SetupError (RunResult V) → Prop
  | refused (err : SetupError) : AnswersAgree cause (.error err) (.error err)
  | ran {r r' : RunResult V} (h : r.Agree cause r') : AnswersAgree cause (.ok r) (.ok r')

theorem AnswersAgree.verdict {x y : Except SetupError (RunResult V)} (h : AnswersAgree cause x y) :
    y.map RunResult.verdict = x.map RunResult.verdict := by
  cases h with
  | refused err => rfl
  | ran h => exact congrArg Except.ok h.verdict

/-- **A run against the one adapter is a run against the other.** -/
theorem drive_agree (e : Engine) (stop : Option StopSignal) (sim : a.Simulates cause R a') {b : Bench σ V}
    {b' : Bench τ V} (h : b.Agree R b') :
    AnswersAgree cause (e.drive stop a b).1 (e.drive stop a' b').1 ∧
      (e.drive stop a b).2.Agree R (e.drive stop a' b').2 := by
  have hempty : (e.emptyResult b.generator).Agree cause (e.emptyResult b'.generator) := by
    rw [h.generator]
    exact ⟨rfl, rfl, rfl, rfl, rfl, rfl, rfl, rfl, .nil⟩
  simp only [drive, h.signals]
  cases e.config.validate with
  | error err => exact ⟨.refused err, h⟩
  | ok _ =>
    dsimp only
    split
    · exact ⟨.refused _, h⟩
    · obtain ⟨hbench, hr⟩ := e.loop_agree stop sim e.config.rounds.toNat 0 (h.report _ _) hempty
      exact ⟨.ran ⟨hr.seed, hr.domain, hr.roundsRequested, hr.roundsCompleted, hr.retention, hr.tally, hr.cancelled,
        rfl, hr.rounds⟩, hbench.report _ _⟩

/-- Runs from a domain and a seed agree as well. -/
theorem run_agree (e : Engine) (domain : Domain V) (seed : Seed) (stop : Option StopSignal)
    (sim : a.Simulates cause R a') {s : σ} {t : τ} (h : R s t) (signals : Signals) :
    AnswersAgree cause (e.run domain seed stop a s signals).result (e.run domain seed stop a' t signals).result := by
  rw [run, run]
  cases Generator.new domain seed with
  | error err => exact .refused err
  | ok generator => exact (e.drive_agree stop sim ⟨rfl, rfl, h⟩).1

end Engine

/-! ## The same causes -/

/-- The rule that takes no two different causes for each other. -/
def sameCause : CauseRule := fun _ c c' => c = c'

theorem Round.Agree.eq {x y : Round V} (h : x.Agree sameCause y) : x = y := by
  obtain ⟨index, input, observed, outcome⟩ := x
  obtain ⟨index', input', observed', outcome'⟩ := y
  obtain ⟨rfl, rfl, rfl, ho⟩ := h
  cases ho with
  | pass => rfl
  | mismatch => rfl
  | adapterError hc => cases hc; rfl

theorem RunResult.Agree.eq {r r' : RunResult V} (h : r.Agree sameCause r') : r = r' := by
  have hrounds : r.rounds.toList = r'.rounds.toList :=
    List.forall₂_eq_eq_eq ▸ h.rounds.imp fun _ _ hxy => hxy.eq
  cases r
  cases r'
  simp only [RunResult.mk.injEq]
  exact ⟨h.seed.symm, h.domain.symm, h.roundsRequested.symm, h.roundsCompleted.symm, h.retention.symm,
    Array.toList_inj.mp hrounds, h.tally.symm, h.cancelled.symm, h.finished.symm⟩

/-- Answers that agree in the causes too are equal. -/
theorem Engine.AnswersAgree.eq {x y : Except SetupError (RunResult V)} (h : Engine.AnswersAgree sameCause x y) :
    x = y := by
  cases h with
  | refused err => rfl
  | ran h => rw [h.eq]

end Readback
