import Readback.Program.Basic
import Readback.Proofs.Adapter.FaultyCell
import Readback.Proofs.Adapter.Watched

/-!
# Whether a run command starts

A run command checks the bounds, the rounds, the seed and the target, and asks whether the target is up. `Rejected` says
that one of these keeps it from running, `Ready` that none does.

- one or the other holds (`rejected_or_ready`);
- a command that is rejected ends with a refusal, and the network has seen no more of it than the question whether the
  target is up (`Refused.executeVia`);
- a command that is ready ends as the engine does (`Ready.fate_of_lt_two`, `Ready.play_eq`), unless the second
  interrupt ends it (`Ready.exit_of_two_le`).
-/

namespace Readback.Program

open CommandLine (RunOptions)
open Http (Network)

variable {σ τ : Type} {o : RunOptions} {net : Network σ} {fresh seed : Seed} {s s' : σ} {target : Target}
  {interrupts : List Moment}

/-! ## Rejected and ready -/

/-- What keeps a run from starting: the domain, the number of rounds, the seed, the target or the connection. -/
inductive Rejected (o : RunOptions) (net : Network σ) (s : σ) : Prop
  | domain : o.bounds.max < o.bounds.min → Rejected o net s
  | rounds : o.config.rounds = 0 → Rejected o net s
  | seed {text : String} {error : SetupError} : o.seed = some text → Seed.parse text = .error error → Rejected o net s
  | target {message : String} : Target.parse o.target = .error message → Rejected o net s
  | connection {target : Target} {causes : Http.Causes} {s' : σ} : Target.parse o.target = .ok target →
      target.connect net s = (.error causes, s') → Rejected o net s

/-- The seed of a run: the one that is given, or else the fresh one. -/
def chosenSeed (o : RunOptions) (fresh : Seed) : Except SetupError Seed :=
  match o.seed with
  | some text => Seed.parse text
  | none => .ok fresh

/-- Nothing keeps a run from starting. It will have this seed and this target, and the network is in the state `s'`
when it is known that the target is up. -/
structure Ready (o : RunOptions) (net : Network σ) (fresh : Seed) (s : σ) (seed : Seed) (target : Target) (s' : σ) :
    Prop where
  domain : o.bounds.min ≤ o.bounds.max
  rounds : 1 ≤ o.config.rounds
  seed_ok : chosenSeed o fresh = .ok seed
  target_ok : Target.parse o.target = .ok target
  connected : ∃ lines, target.connect net s = (.ok lines, s')

/-- The seed passes the checks exactly if the domain, the rounds and the seed itself do. -/
theorem checkedSeed_eq_ok_iff :
    checkedSeed o fresh = .ok seed ↔
      o.bounds.min ≤ o.bounds.max ∧ 1 ≤ o.config.rounds ∧ chosenSeed o fresh = .ok seed := by
  rw [checkedSeed, Bounds.check, Config.validate, one_le_iff_ne_zero]
  by_cases hdomain : o.bounds.min ≤ o.bounds.max
  case neg =>
    rw [dif_neg hdomain]
    refine ⟨fun h => ?_, fun h => absurd h.1 hdomain⟩
    cases h
  by_cases hzero : o.config.rounds = 0
  case pos =>
    rw [dif_pos hdomain, if_pos hzero]
    refine ⟨fun h => ?_, fun h => absurd hzero h.2.1⟩
    cases h
  rw [dif_pos hdomain, if_neg hzero]
  exact ⟨fun h => ⟨hdomain, hzero, h⟩, fun h => h.2.2⟩

/-- **A run command is rejected or ready.** -/
theorem rejected_or_ready (o : RunOptions) (net : Network σ) (fresh : Seed) (s : σ) :
    Rejected o net s ∨ ∃ seed target s', Ready o net fresh s seed target s' := by
  by_cases hdomain : o.bounds.min ≤ o.bounds.max
  case neg => exact .inl (.domain (Int64.not_le.mp hdomain))
  by_cases hzero : o.config.rounds = 0
  case pos => exact .inl (.rounds hzero)
  cases hseed : chosenSeed o fresh with
  | error err =>
    unfold chosenSeed at hseed
    split at hseed
    · next htext => exact .inl (.seed htext hseed)
    · cases hseed
  | ok seed =>
    cases htarget : Target.parse o.target with
    | error message => exact .inl (.target htarget)
    | ok target =>
      cases hconnect : target.connect net s with
      | mk answer s' =>
        cases answer with
        | error causes => exact .inl (.connection htarget hconnect)
        | ok lines =>
          exact .inr ⟨seed, target, s', hdomain, one_le_iff_ne_zero.mpr hzero, hseed, htarget, lines, hconnect⟩

theorem Ready.not_rejected (h : Ready o net fresh s seed target s') : ¬ Rejected o net s := by
  obtain ⟨lines, hconnect⟩ := h.connected
  rintro (hdomain | hzero | ⟨htext, hparse⟩ | htarget | ⟨htarget, hcauses⟩)
  · exact absurd h.domain (Int64.not_le.mpr hdomain)
  · exact absurd hzero (one_le_iff_ne_zero.mp h.rounds)
  · have hseed := h.seed_ok
    rw [chosenSeed, htext] at hseed
    cases hseed.symm.trans hparse
  · cases h.target_ok.symm.trans htarget
  · obtain rfl := Except.ok.inj (h.target_ok.symm.trans htarget)
    cases hconnect.symm.trans hcauses

/-- How a command that is rejected comes to its refusal. -/
inductive Refused (o : RunOptions) (net : Network σ) (fresh : Seed) (s : σ) : Prop
  | unchecked {err : SetupError} : checkedSeed o fresh = .error err → Refused o net fresh s
  | unknown {seed : Seed} {message : String} : checkedSeed o fresh = .ok seed →
      Target.parse o.target = .error message → Refused o net fresh s
  | unreachable {seed : Seed} {target : Target} {causes : Http.Causes} {s' : σ} : checkedSeed o fresh = .ok seed →
      Target.parse o.target = .ok target → target.connect net s = (.error causes, s') → Refused o net fresh s

theorem Rejected.refused (h : Rejected o net s) (fresh : Seed) : Refused o net fresh s := by
  cases hseed : checkedSeed o fresh with
  | error err => exact .unchecked hseed
  | ok seed =>
    cases htarget : Target.parse o.target with
    | error message => exact .unknown hseed htarget
    | ok target =>
      cases hconnect : target.connect net s with
      | mk answer s' =>
        cases answer with
        | error causes => exact .unreachable hseed htarget hconnect
        | ok lines =>
          -- The checks are all passed, which leaves nothing to reject.
          obtain ⟨hdomain, hrounds, hchosen⟩ := checkedSeed_eq_ok_iff.mp hseed
          exact absurd h (Ready.not_rejected ⟨hdomain, hrounds, hchosen, htarget, lines, hconnect⟩)

/-! ## The command -/

theorem Ready.checkedSeed (h : Ready o net fresh s seed target s') : checkedSeed o fresh = .ok seed :=
  checkedSeed_eq_ok_iff.mpr ⟨h.domain, h.rounds, h.seed_ok⟩

/-- The seed, the target and the state of the network are determined by the command. -/
theorem Ready.unique (h : Ready o net fresh s seed target s') {seed₂ : Seed} {target₂ : Target} {s₂ : σ}
    (h₂ : Ready o net fresh s seed₂ target₂ s₂) : seed₂ = seed ∧ target₂ = target ∧ s₂ = s' := by
  obtain ⟨lines, hconnect⟩ := h.connected
  obtain ⟨lines₂, hconnect₂⟩ := h₂.connected
  obtain rfl := Except.ok.inj (h.seed_ok.symm.trans h₂.seed_ok)
  obtain rfl := Except.ok.inj (h.target_ok.symm.trans h₂.target_ok)
  exact ⟨rfl, rfl, congrArg Prod.snd (hconnect₂.symm.trans hconnect)⟩

/-- **A command that is rejected ends with a refusal**, and nothing was sent but the question whether the target is
up. -/
theorem Refused.executeVia (h : Refused o net fresh s) (via : Access σ τ) (interrupts : List Moment) :
    (∃ refusal, (executeVia via o net fresh interrupts s).fate = .refused refusal) ∧
      ((executeVia via o net fresh interrupts s).site = via.enter { network := s } ∨
        ∃ target, Target.parse o.target = .ok target ∧
          (executeVia via o net fresh interrupts s).site = via.enter { network := (target.connect net s).2 }) := by
  cases h with
  | unchecked hseed =>
    simp only [Program.executeVia, hseed]
    exact ⟨⟨_, rfl⟩, .inl trivial⟩
  | unknown hseed htarget =>
    simp only [Program.executeVia, hseed, htarget]
    exact ⟨⟨_, rfl⟩, .inl trivial⟩
  | unreachable hseed htarget hconnect =>
    simp only [Program.executeVia, hseed, htarget, hconnect]
    exact ⟨⟨_, rfl⟩, .inr ⟨_, rfl, by rw [hconnect]⟩⟩

/-- A command that is ready ends as its engine does, unless interrupts end it. -/
theorem Ready.executeVia_fate (h : Ready o net fresh s seed target s') (via : Access σ τ) (interrupts : List Moment) :
    (executeVia via o net fresh interrupts s).fate =
      .ofEngine interrupts (play via o net target seed interrupts s').adapter.1.received
        (play via o net target seed interrupts s').result := by
  obtain ⟨lines, hconnect⟩ := h.connected
  simp only [executeVia, h.checkedSeed, h.target_ok, hconnect]

/-- When the engine is done, the watch has received the interrupts that had come. -/
theorem play_tracks (via : Access σ τ) (o : RunOptions) (net : Network σ) (target : Target) (seed : Seed)
    (interrupts : List Moment) (s : σ) : (play via o net target seed interrupts s).adapter.1.Tracks interrupts :=
  Engine.run_keeps (Adapter.keeps_tracks_watched _ interruptSignal interrupts) _ _ _ _
    (Watch.tracks_start interrupts) _

/-- How many interrupts arrive before a command that is ready has ended. -/
def arrivals (o : RunOptions) (net : Network σ) (target : Target) (seed : Seed) (interrupts : List Moment) (s : σ) :
    Nat :=
  interrupts.countP (·.comes (play .direct o net target seed interrupts s).adapter.1.calls)

/-- One interrupt leaves it to the engine how a command ends. -/
theorem arrivals_lt_two (interrupts : List Moment) (hone : interrupts.length ≤ 1) :
    arrivals o net target seed interrupts s < 2 :=
  Nat.lt_succ_of_le (Nat.le_trans List.countP_le_length hone)

theorem arrivals_eq (o : RunOptions) (net : Network σ) (target : Target) (seed : Seed) (interrupts : List Moment)
    (s : σ) :
    arrivals o net target seed interrupts s = (play .direct o net target seed interrupts s).adapter.1.received +
      interrupts.count .beforeReport + interrupts.count .afterReport := by
  rw [(play_tracks .direct o net target seed interrupts s).received]
  exact Moment.countP_comes interrupts _

theorem Fate.ofEngine_of_two_le {received : Nat}
    (h : 2 ≤ received + interrupts.count .beforeReport + interrupts.count .afterReport)
    (result : Except SetupError (RunResult Int64)) :
    ∃ reported, ofEngine interrupts received result = .killed reported := by
  cases result with
  | error e => simp only [ofEngine, if_pos h, ite_self, killed.injEq, exists_eq']
  | ok r =>
    simp only [ofEngine, if_pos h]
    split
    · exact ⟨none, rfl⟩
    · exact ⟨some r, rfl⟩

theorem Fate.ofEngine_of_lt_two {received : Nat}
    (h : received + interrupts.count .beforeReport + interrupts.count .afterReport < 2)
    (result : Except SetupError (RunResult Int64)) :
    ofEngine interrupts received result =
      match result with
      | .ok r => .reported r
      | .error e => .refused (.setup e) := by
  have hbefore : ¬ 2 ≤ received + interrupts.count .beforeReport := by omega
  cases result <;> simp only [ofEngine, if_neg hbefore, if_neg (Nat.not_le_of_lt h)]

/-- **The second interrupt ends the process.** -/
theorem Ready.exit_of_two_le (h : Ready o net fresh s seed target s')
    (htwo : 2 ≤ arrivals o net target seed interrupts s') : (execute o net fresh interrupts s).exit = 130 := by
  rw [arrivals_eq] at htwo
  obtain ⟨reported, hfate⟩ := Fate.ofEngine_of_two_le htwo (play .direct o net target seed interrupts s').result
  rw [Execution.exit, execute, h.executeVia_fate, hfate]

/-- **A command that no second interrupt ends** reports the result of its engine, or is refused. -/
theorem Ready.fate_of_lt_two (h : Ready o net fresh s seed target s')
    (hlt : arrivals o net target seed interrupts s' < 2) :
    (execute o net fresh interrupts s).fate =
      match (play .direct o net target seed interrupts s').result with
      | .ok r => .reported r
      | .error e => .refused (.setup e) := by
  rw [arrivals_eq] at hlt
  rw [execute, h.executeVia_fate, Fate.ofEngine_of_lt_two hlt]

theorem Ready.exit_of_ok (h : Ready o net fresh s seed target s')
    (hlt : arrivals o net target seed interrupts s' < 2) {r : RunResult Int64}
    (hr : (play .direct o net target seed interrupts s').result = .ok r) :
    (execute o net fresh interrupts s).fate = .reported r ∧
      (execute o net fresh interrupts s).exit = (RunStatus.ofResult r).exitCode := by
  have hfate := h.fate_of_lt_two hlt
  rw [hr] at hfate
  exact ⟨hfate, by rw [Execution.exit, hfate]⟩

/-! ## The engine of the command -/

/-- The bench that the engine of a command starts on. -/
def opening (o : RunOptions) (interrupts : List Moment) (generator : Generator Int64) (s : σ) :
    Bench (Watch × Injector × Site σ) Int64 where
  generator := generator
  adapter := (.start interrupts, injector o.dropWrite, { network := s })
  signals := initialSignals interrupts

theorem initialSignals_of_not_mem (h : .beforeRun ∉ interrupts) : initialSignals interrupts = .none := by
  rw [initialSignals, List.count_eq_zero_of_not_mem h]
  rfl

theorem stopRequested_opening (hquiet : .beforeRun ∉ interrupts) (generator : Generator Int64) (s : σ) :
    Engine.stopRequested (some interruptSignal) (opening o interrupts generator s).signals = false := by
  rw [opening, initialSignals_of_not_mem hquiet]
  rfl

/-- The run of a command that is ready, on its bench. -/
theorem Ready.play_eq (h : Ready o net fresh s seed target s') :
    ∃ generator, Generator.new o.bounds.domain seed = .ok generator ∧ ∀ interrupts,
      play .direct o net target seed interrupts s' =
        let (result, b) := (Engine.mk o.config).drive (some interruptSignal)
          ((target.adapter net).faulty.watched interruptSignal) (opening o interrupts generator s')
        ⟨result, b.adapter, b.signals, b.log⟩ := by
  have hnew := FaultyCell.generator_new ⟨o.bounds, h.domain⟩ seed
  refine ⟨_, hnew, fun interrupts => ?_⟩
  rw [play, Engine.run, show Generator.new o.bounds.domain seed = _ from hnew]
  rfl

end Readback.Program
