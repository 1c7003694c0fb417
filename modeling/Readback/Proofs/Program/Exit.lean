import Readback.Proofs.Program.Setup
import Readback.Proofs.Run.Session

/-!
# The exit status

The exit status of a run command comes from the refusal, or from two counters and a flag of the result, unless the
second interrupt ends the process. Nothing in it counts rounds: that a status of zero stands for a run of full length
rests on how the engine ends.

- a result is cancelled exactly if the signal ended the run (`Engine.cancelled_iff`), and one that is not, and that
  shows no failure, has all its rounds (`Engine.completed_eq_rounds`);
- the calls made of the target can be put on record without any change to the command (`Access.Transparent.executeVia`);
- **`exit_truthful`**: each status means what it says, and 130 also stands for a process that the second interrupt
  ended; even one whose rounds have all passed (`second_interrupt_outweighs_pass`).
-/

namespace Readback

/-! ## How a run ended -/

namespace Engine

variable {σ V : Type} {e : Engine} {stop : Option StopSignal} {adapter : Adapter σ V} {b : Bench σ V} {r : RunResult V}

/-- No failure ends a run when `n` rounds are played and pass. -/
theorem failsAt_of_pass {n : Nat}
    (h : e.config.stopOnFirstFailure = true → ∀ round ∈ b.firstRounds adapter n, round.isPass = true) :
    e.failsAt adapter b n = false := by
  cases n with
  | zero => rfl
  | succ n =>
    cases hflag : e.config.stopOnFirstFailure with
    | false => rw [failsAt, hflag, Bool.false_and]
    | true =>
      have hpass := h hflag (b.roundAt adapter n) ((b.mem_firstRounds adapter).mpr ⟨n, Nat.lt_succ_self n, rfl⟩)
      rw [failsAt, hpass, Bool.not_true, Bool.and_false]

/-- If failures end the run and none has, all rounds before the cut pass. -/
theorem CutAt.pass_of_failsAt {n : Nat} (h : e.CutAt stop adapter b e.config.rounds.toNat n)
    (hfails : e.failsAt adapter b n = false) (hflag : e.config.stopOnFirstFailure = true) :
    ∀ round ∈ b.firstRounds adapter n, round.isPass = true := by
  intro round hround
  obtain ⟨i, hi, rfl⟩ := (b.mem_firstRounds adapter).mp hround
  rw [← Bool.not_eq_false]
  intro hfail
  have hends : e.failsAt adapter b (i + 1) = true := by rw [failsAt, hflag, hfail]; rfl
  -- A failure before the last round would have ended the run there, and one in the last would end it now.
  rcases Nat.lt_or_eq_of_le hi with hlt | heq
  · exact h.not_before (i + 1) hlt (.inl hends)
  · rw [← heq, Nat.succ_eq_add_one, hends] at hfails
    cases hfails

theorem toNat_roundsCompleted_resultAt {n : Nat} (h : e.CutAt stop adapter b e.config.rounds.toNat n) :
    (e.resultAt adapter b n).roundsCompleted.toNat = n := by
  rw [roundsCompleted_resultAt, UInt64.toNat_ofNat_of_lt' h.lt_size]

/-- **A run is cancelled exactly if the signal ended it**: rounds were left, the signal was raised, and no failure had
ended the run. -/
theorem cancelled_iff (h : (e.drive stop adapter b).1 = .ok r) :
    r.cancelled = true ↔
      r.roundsCompleted < e.config.rounds ∧ stopRequested stop (e.drive stop adapter b).2.signals = true ∧
        (e.config.stopOnFirstFailure = true →
          ∀ round ∈ b.firstRounds adapter r.roundsCompleted.toNat, round.isPass = true) := by
  have hstopped := stopRequested_of_cancelled h
  obtain ⟨n, b', hcut, rfl, -, -⟩ := drive_ok_cases h
  rw [UInt64.lt_iff_toNat_lt, toNat_roundsCompleted_resultAt hcut]
  constructor
  · intro hcancelled
    obtain ⟨hfails, hlt⟩ := cancelled_resultAt.mp hcancelled
    exact ⟨hlt, hstopped hcancelled, hcut.pass_of_failsAt hfails⟩
  · rintro ⟨hlt, -, hpass⟩
    exact cancelled_resultAt.mpr ⟨failsAt_of_pass hpass, hlt⟩

/-- **A run that is not cancelled and shows no failure has all its rounds.** -/
theorem completed_eq_rounds (h : (e.drive stop adapter b).1 = .ok r) (hcancelled : r.cancelled = false)
    (hpass : ∀ round ∈ b.firstRounds adapter r.roundsCompleted.toNat, round.isPass = true) :
    r.roundsCompleted = e.config.rounds := by
  obtain ⟨n, b', hcut, rfl, -, -⟩ := drive_ok_cases h
  have hcount := toNat_roundsCompleted_resultAt hcut
  rw [hcount] at hpass
  rw [← UInt64.toNat_inj, hcount]
  -- With rounds left and no failure, only the signal can have ended the run.
  refine Nat.le_antisymm hcut.le_total (Nat.le_of_not_lt fun hlt => ?_)
  rw [cancelled_resultAt.mpr ⟨failsAt_of_pass fun _ => hpass, hlt⟩] at hcancelled
  cases hcancelled

end Engine

theorem RunStatus.exitCode_ofResult {V : Type} (r : RunResult V) :
    (RunStatus.ofResult r).exitCode = if r.cancelled then 130 else if r.verdict = .pass then 0 else 1 := by
  rw [RunStatus.ofResult, RunResult.isPass]
  cases r.cancelled <;> cases r.verdict <;> rfl

/-! ## The calls of a command -/

namespace Program

open CommandLine (RunOptions)
open Http (Network)

variable {σ τ : Type} {o : RunOptions} {net : Network σ} {fresh seed : Seed} {s s' : σ} {target : Target}
  {interrupts : List Moment} {via : Access σ τ} {R : Site σ → τ → Prop}

/-- The calls go on record, which starts out empty. -/
def Access.recorded : Access σ (List (Call Int64) × Site σ) := ⟨Adapter.traced, ([], ·)⟩

/-- The way that the calls get to the target does not show in the replies. -/
structure Access.Transparent (R : Site σ → τ → Prop) (via : Access σ τ) : Prop where
  wrap (a : Adapter (Site σ) Int64) : a.Indistinct .full R (via.wrap a)
  enter (site : Site σ) : R site (via.enter site)

theorem Access.transparent_recorded : (Access.recorded (σ := σ)).Transparent fun site t => t.2 = site :=
  ⟨fun a => a.indistinct_traced .full, fun _ => rfl⟩

theorem Access.Transparent.play (h : via.Transparent R) (o : RunOptions) (net : Network σ) (target : Target)
    (seed : Seed) (interrupts : List Moment) (s : σ) :
    (play .direct o net target seed interrupts s).Indistinct .full
      (fun x y => y.1 = x.1 ∧ y.2.1 = x.2.1 ∧ R x.2.2 y.2.2) (play via o net target seed interrupts s) :=
  have hadapter := ((h.wrap (target.adapter net)).faulty).watched interruptSignal
  Engine.run_indistinct _ _ seed (fun _ _ => trivial) hadapter ⟨rfl, rfl, h.enter _⟩ fun _ _ => rfl

/-- **A transparent access changes nothing in a command.** -/
theorem Access.Transparent.executeVia (h : via.Transparent R) (o : RunOptions) (net : Network σ) (fresh : Seed)
    (interrupts : List Moment) (s : σ) :
    (executeVia via o net fresh interrupts s).fate = (execute o net fresh interrupts s).fate ∧
      (executeVia via o net fresh interrupts s).remarks = (execute o net fresh interrupts s).remarks ∧
      R (execute o net fresh interrupts s).site (executeVia via o net fresh interrupts s).site := by
  simp only [execute, Program.executeVia]
  cases checkedSeed o fresh with
  | error err => exact ⟨rfl, rfl, h.enter _⟩
  | ok seed =>
    cases Target.parse o.target with
    | error message => exact ⟨rfl, rfl, h.enter _⟩
    | ok target =>
      dsimp only
      cases target.connect net s with
      | mk answer network =>
        cases answer with
        | error causes => exact ⟨rfl, rfl, h.enter _⟩
        | ok lines =>
          obtain ⟨hresult, hadapter, -, hlog⟩ := h.play o net target seed interrupts network
          simp only [hresult, hadapter.1, hlog trivial]
          exact ⟨trivial, trivial, hadapter.2.2⟩

/-! ## Commands that come to a result -/

/-- Setup succeeds, and the engine completes these rounds and gives this result; `raised` tells whether the signal of
the interrupt is raised at the end. -/
def Ran (o : RunOptions) (net : Network σ) (fresh : Seed) (interrupts : List Moment) (s : σ) (r : RunResult Int64)
    (rounds : List (Round Int64)) (raised : Bool) : Prop :=
  ∃ seed target s' generator, Ready o net fresh s seed target s' ∧
    Generator.new o.bounds.domain seed = .ok generator ∧
    (play .direct o net target seed interrupts s').result = .ok r ∧
    (play .direct o net target seed interrupts s').signals.isRaised interruptSignal = raised ∧
    rounds = (opening o interrupts generator s').firstRounds ((target.adapter net).faulty.watched interruptSignal)
      r.roundsCompleted.toNat

/-- The second interrupt ends the process: setup succeeds, and two of the interrupts arrive before the end. -/
def Killed (o : RunOptions) (net : Network σ) (fresh : Seed) (interrupts : List Moment) (s : σ) : Prop :=
  ∃ seed target s', Ready o net fresh s seed target s' ∧ 2 ≤ arrivals o net target seed interrupts s'

/-- One interrupt does not end the process. -/
theorem not_killed_of_length_le (h : interrupts.length ≤ 1) : ¬ Killed o net fresh interrupts s := by
  rintro ⟨seed, target, s', -, htwo⟩
  exact Nat.not_le_of_lt (arrivals_lt_two interrupts h) htwo

theorem Killed.exit_eq (h : Killed o net fresh interrupts s) : (execute o net fresh interrupts s).exit = 130 := by
  obtain ⟨seed, target, s', hready, htwo⟩ := h
  exact hready.exit_of_two_le htwo

/-- A command that is ready, and not interrupted before its engine starts, comes to a result. -/
theorem Ready.ran (h : Ready o net fresh s seed target s') (hquiet : .beforeRun ∉ interrupts) :
    ∃ r rounds raised, Ran o net fresh interrupts s r rounds raised := by
  obtain ⟨generator, hnew, hplay⟩ := h.play_eq
  obtain ⟨n, b', -, hdrive, -⟩ := Engine.drive_eq_resultAt ⟨o.config⟩ (some interruptSignal)
    ((target.adapter net).faulty.watched interruptSignal) (opening o interrupts generator s') h.rounds
    (stopRequested_opening hquiet generator s')
  have hresult := congrArg Engine.Ending.result (hplay interrupts)
  rw [hdrive] at hresult
  exact ⟨_, _, _, seed, target, s', generator, h, hnew, hresult, rfl, rfl⟩

namespace Ran

variable {r : RunResult Int64} {rounds : List (Round Int64)} {raised : Bool}

/-- The result is that of the engine. -/
theorem result_eq (h : Ran o net fresh interrupts s r rounds raised) (hready : Ready o net fresh s seed target s') :
    (play .direct o net target seed interrupts s').result = .ok r := by
  obtain ⟨_, _, _, _, hready', -, hresult, -, -⟩ := h
  obtain ⟨rfl, rfl, rfl⟩ := hready.unique hready'
  exact hresult

theorem exit_eq (h : Ran o net fresh interrupts s r rounds raised) (hkilled : ¬ Killed o net fresh interrupts s) :
    (execute o net fresh interrupts s).exit = (RunStatus.ofResult r).exitCode := by
  obtain ⟨seed, target, s', generator, hready, -, hresult, -, -⟩ := h
  have hlt := Nat.lt_of_not_le fun htwo => hkilled ⟨seed, target, s', hready, htwo⟩
  exact (hready.exit_of_ok hlt hresult).2

/-- What the result of a command tells about its rounds. -/
structure Spec (o : RunOptions) (r : RunResult Int64) (rounds : List (Round Int64)) (raised : Bool) : Prop where
  length : rounds.length = r.roundsCompleted.toNat
  verdict_iff : r.verdict = .pass ↔ ∀ round ∈ rounds, round.isPass = true
  cancelled_iff : r.cancelled = true ↔ r.roundsCompleted < o.config.rounds ∧ raised = true ∧
    (o.config.stopOnFirstFailure = true → ∀ round ∈ rounds, round.isPass = true)
  completed_eq : r.cancelled = false → (∀ round ∈ rounds, round.isPass = true) → r.roundsCompleted = o.config.rounds

theorem Spec.cancelled_iff_length (h : Spec o r rounds raised) :
    r.cancelled = true ↔ rounds.length < o.config.rounds.toNat ∧ raised = true ∧
      (o.config.stopOnFirstFailure = true → ∀ round ∈ rounds, round.isPass = true) := by
  rw [h.cancelled_iff, UInt64.lt_iff_toNat_lt, h.length]

theorem Spec.exitCode_eq_zero_iff (h : Spec o r rounds raised) :
    (RunStatus.ofResult r).exitCode = 0 ↔
      rounds.length = o.config.rounds.toNat ∧ ∀ round ∈ rounds, round.isPass = true := by
  have hstatus : (RunStatus.ofResult r).exitCode = 0 ↔ r.cancelled = false ∧ r.verdict = .pass := by
    rw [RunStatus.exitCode_ofResult]
    split_ifs <;> simp_all
  rw [hstatus, h.verdict_iff]
  constructor
  · rintro ⟨hcancelled, hpass⟩
    exact ⟨h.length.trans (congrArg UInt64.toNat (h.completed_eq hcancelled hpass)), hpass⟩
  · rintro ⟨hlength, hpass⟩
    refine ⟨?_, hpass⟩
    rw [← Bool.not_eq_true, h.cancelled_iff_length, hlength]
    exact fun hlt => Nat.lt_irrefl _ hlt.1

theorem Spec.exitCode_eq_interrupted_iff (h : Spec o r rounds raised) :
    (RunStatus.ofResult r).exitCode = 130 ↔ rounds.length < o.config.rounds.toNat ∧ raised = true ∧
      (o.config.stopOnFirstFailure = true → ∀ round ∈ rounds, round.isPass = true) := by
  rw [← h.cancelled_iff_length, RunStatus.exitCode_ofResult]
  split_ifs <;> simp_all

theorem Spec.exitCode_eq_one_iff (h : Spec o r rounds raised) :
    (RunStatus.ofResult r).exitCode = 1 ↔ r.cancelled = false ∧ ∃ round ∈ rounds, round.isPass = false := by
  have hstatus : (RunStatus.ofResult r).exitCode = 1 ↔ r.cancelled = false ∧ ¬ r.verdict = .pass := by
    rw [RunStatus.exitCode_ofResult]
    split_ifs <;> simp_all
  rw [hstatus, h.verdict_iff]
  simp only [not_forall, Bool.not_eq_true, exists_prop]

theorem spec (h : Ran o net fresh interrupts s r rounds raised) : Spec o r rounds raised := by
  obtain ⟨seed, target, s', generator, hready, hnew, hresult, hraised, rfl⟩ := h
  obtain ⟨generator', hnew', hplay⟩ := hready.play_eq
  obtain rfl := Except.ok.inj (hnew.symm.trans hnew')
  rw [hplay] at hresult hraised
  have hcancelled := Engine.cancelled_iff hresult
  rw [show Engine.stopRequested (some interruptSignal) _ = _ from hraised] at hcancelled
  exact ⟨Bench.length_firstRounds _ _ _, (Engine.drive_balanced hresult).verdict_iff, hcancelled,
    Engine.completed_eq_rounds hresult⟩

end Ran

theorem exit_eq_two_iff (hquiet : .beforeRun ∉ interrupts) :
    (execute o net fresh interrupts s).exit = 2 ↔ Rejected o net s := by
  rcases rejected_or_ready o net fresh s with hrejected | ⟨seed, target, s', hready⟩
  · obtain ⟨⟨refusal, hfate⟩, -⟩ := (hrejected.refused fresh).executeVia .direct interrupts
    refine ⟨fun _ => hrejected, fun _ => ?_⟩
    rw [Execution.exit, execute, hfate]
    rfl
  · obtain ⟨r, rounds, raised, hran⟩ := hready.ran hquiet
    refine ⟨fun hexit => ?_, fun hrejected => absurd hrejected hready.not_rejected⟩
    by_cases hkilled : Killed o net fresh interrupts s
    · rw [hkilled.exit_eq] at hexit
      exact absurd hexit (by decide)
    · rw [hran.exit_eq hkilled, RunStatus.exitCode_ofResult] at hexit
      split_ifs at hexit <;> exact absurd hexit (by decide)

/-- What a status means for the result, it means for the command, unless the second interrupt ends it. -/
theorem exit_eq_iff {code : UInt8} {P : RunResult Int64 → List (Round Int64) → Bool → Prop}
    (hquiet : .beforeRun ∉ interrupts) (hcode : code ≠ 2)
    (hmeans : ∀ {r rounds raised}, Ran.Spec o r rounds raised →
      ((RunStatus.ofResult r).exitCode = code ↔ P r rounds raised)) :
    (execute o net fresh interrupts s).exit = code ↔
      (Killed o net fresh interrupts s ∧ code = 130) ∨ (¬ Killed o net fresh interrupts s ∧
        ∃ r rounds raised, Ran o net fresh interrupts s r rounds raised ∧ P r rounds raised) := by
  by_cases hkilled : Killed o net fresh interrupts s
  · rw [hkilled.exit_eq]
    exact ⟨fun h => .inl ⟨hkilled, h.symm⟩, fun h => (h.resolve_right fun h => h.1 hkilled).2.symm⟩
  · constructor
    · intro hexit
      rcases rejected_or_ready o net fresh s with hrejected | ⟨seed, target, s', hready⟩
      · exact absurd (hexit.symm.trans ((exit_eq_two_iff hquiet).mpr hrejected)) hcode
      · obtain ⟨r, rounds, raised, hran⟩ := hready.ran hquiet
        exact .inr ⟨hkilled, r, rounds, raised, hran,
          (hmeans hran.spec).mp ((hran.exit_eq hkilled).symm.trans hexit)⟩
    · rintro (⟨h, -⟩ | ⟨-, r, rounds, raised, hran, hp⟩)
      · exact absurd h hkilled
      · rw [hran.exit_eq hkilled]
        exact (hmeans hran.spec).mpr hp

/-! ## The truth of the exit status -/

/-- The exit status of a run command with these options tells the truth about it, in these surroundings. -/
structure Truthful (o : RunOptions) (w : Surroundings σ) (s : σ) (t : Transcript) : Prop where
  /-- All rounds that were asked for are completed, and all of them pass, and no second interrupt ends the process. -/
  zero_iff : t.exit = 0 ↔ ¬ Killed o (w.network o.timeoutMs) w.freshSeed w.interrupts s ∧
    ∃ r rounds raised, Ran o (w.network o.timeoutMs) w.freshSeed w.interrupts s r rounds raised ∧
      rounds.length = o.config.rounds.toNat ∧ ∀ round ∈ rounds, round.isPass = true
  /-- The second interrupt ends the process, or the signal ended the run: rounds are left, the signal is raised, and no
  failure has ended the run. -/
  interrupted_iff : t.exit = 130 ↔ Killed o (w.network o.timeoutMs) w.freshSeed w.interrupts s ∨
    ∃ r rounds raised, Ran o (w.network o.timeoutMs) w.freshSeed w.interrupts s r rounds raised ∧
      rounds.length < o.config.rounds.toNat ∧ raised = true ∧
      (o.config.stopOnFirstFailure = true → ∀ round ∈ rounds, round.isPass = true)
  /-- The run is not cancelled, and a completed round does not pass, and no second interrupt ends the process. -/
  one_iff : t.exit = 1 ↔ ¬ Killed o (w.network o.timeoutMs) w.freshSeed w.interrupts s ∧
    ∃ r rounds raised, Ran o (w.network o.timeoutMs) w.freshSeed w.interrupts s r rounds raised ∧
      r.cancelled = false ∧ ∃ round ∈ rounds, round.isPass = false
  /-- The domain, the number of rounds, the seed, the target or the connection is rejected. -/
  two_iff : t.exit = 2 ↔ Rejected o (w.network o.timeoutMs) s
  /-- It takes two interrupts to end the process. -/
  once : w.interrupts.length ≤ 1 → ¬ Killed o (w.network o.timeoutMs) w.freshSeed w.interrupts s
  /-- A command that is rejected writes nothing to the standard output, makes no call of its target, and sends nothing
  but the question whether that is up. -/
  rejected : t.exit = 2 → t.stdout = "" ∧
    (executeVia .recorded o (w.network o.timeoutMs) w.freshSeed w.interrupts s).site.1 = [] ∧
    ((execute o (w.network o.timeoutMs) w.freshSeed w.interrupts s).network = s ∨
      ∃ target, Target.parse o.target = .ok target ∧
        (execute o (w.network o.timeoutMs) w.freshSeed w.interrupts s).network =
          (target.connect (w.network o.timeoutMs) s).2)
  /-- The calls on record are those of this very command. -/
  recorded :
    (executeVia .recorded o (w.network o.timeoutMs) w.freshSeed w.interrupts s).fate =
        (execute o (w.network o.timeoutMs) w.freshSeed w.interrupts s).fate ∧
      (executeVia .recorded o (w.network o.timeoutMs) w.freshSeed w.interrupts s).site.2 =
        (execute o (w.network o.timeoutMs) w.freshSeed w.interrupts s).site
  /-- A run that is not of full length never passes for one that is. -/
  short : ∀ r rounds raised, Ran o (w.network o.timeoutMs) w.freshSeed w.interrupts s r rounds raised →
    rounds.length < o.config.rounds.toNat → t.exit ≠ 0

/-- The exit status of the process is that of the command, and a refusal leaves the standard output empty. -/
theorem transcript_of_run {arguments : List String} (w : Surroundings σ) (s : σ) (times : Times) {verbose : Bool}
    (hparse : CommandLine.parse arguments = .ok ⟨.run o, verbose⟩) :
    ((conclude arguments w s).transcript times).exit =
        (execute o (w.network o.timeoutMs) w.freshSeed w.interrupts s).exit ∧
      ∀ refusal, (execute o (w.network o.timeoutMs) w.freshSeed w.interrupts s).fate = .refused refusal →
        ((conclude arguments w s).transcript times).stdout = "" := by
  simp only [conclude, hparse, Conclusion.transcript, Execution.transcript, true_and]
  intro refusal hfate
  rw [hfate]

/-- **The exit status tells the truth**, for every run command that is not interrupted before its engine starts. -/
theorem exit_truthful (arguments : List String) (w : Surroundings σ) (s : σ) (times : Times) {o : RunOptions}
    {verbose : Bool} (hparse : CommandLine.parse arguments = .ok ⟨.run o, verbose⟩)
    (hquiet : .beforeRun ∉ w.interrupts) :
    Truthful o w s ((conclude arguments w s).transcript times) := by
  obtain ⟨hexit, hstdout⟩ := transcript_of_run w s times hparse
  constructor
  · rw [hexit, exit_eq_iff hquiet (by decide) Ran.Spec.exitCode_eq_zero_iff]
    exact or_iff_right fun h => absurd h.2 (by decide)
  · rw [hexit, exit_eq_iff hquiet (by decide) Ran.Spec.exitCode_eq_interrupted_iff]
    rw [and_iff_left rfl, or_and_left, and_iff_right (Classical.em _)]
  · rw [hexit, exit_eq_iff hquiet (by decide) Ran.Spec.exitCode_eq_one_iff]
    exact or_iff_right fun h => absurd h.2 (by decide)
  · rw [hexit]
    exact exit_eq_two_iff hquiet
  · exact not_killed_of_length_le
  · intro h
    rw [hexit] at h
    have hrefused := ((exit_eq_two_iff hquiet).mp h).refused w.freshSeed
    obtain ⟨⟨refusal, hfate⟩, hsite⟩ := hrefused.executeVia .direct w.interrupts
    refine ⟨hstdout refusal hfate, ?_, ?_⟩
    · rcases (hrefused.executeVia .recorded w.interrupts).2 with hsite | ⟨target, -, hsite⟩
      · exact congrArg Prod.fst hsite
      · exact congrArg Prod.fst hsite
    · rcases hsite with hsite | ⟨target, htarget, hsite⟩
      · exact .inl (congrArg Site.network hsite)
      · exact .inr ⟨target, htarget, congrArg Site.network hsite⟩
  · obtain ⟨hfate, -, hsite⟩ :=
      Access.transparent_recorded.executeVia o (w.network o.timeoutMs) w.freshSeed w.interrupts s
    exact ⟨hfate, hsite⟩
  · intro r rounds raised hran hshort h
    rw [hexit] at h
    by_cases hkilled : Killed o (w.network o.timeoutMs) w.freshSeed w.interrupts s
    · rw [hkilled.exit_eq] at h
      exact absurd h (by decide)
    · rw [hran.exit_eq hkilled, hran.spec.exitCode_eq_zero_iff] at h
      omega

/-- Nobody answers on the network, and no interrupt arrives. -/
def alone : Surroundings Unit where
  freshSeed := ⟨1⟩
  network _ := .unreachable
  listen _ := .ok ()

/-- Two rounds over all integers against the memory cell. -/
def wideArguments : List String :=
  ["run", "--rounds", "2", "--min", "-9223372036854775808", "--max", "9223372036854775807", "--seed", "1"]

/-- What these arguments ask for. -/
def wideOptions : RunOptions where
  bounds := ⟨-9223372036854775808, 9223372036854775807⟩
  config := { rounds := 2 }
  seed := some "1"

/-- Two rounds that pass, and a command without rounds. -/
theorem exit_truthful_alone :
    (∃ r rounds raised, Ran wideOptions .unreachable ⟨1⟩ [] () r rounds raised ∧ rounds.length = 2 ∧
      ∀ round ∈ rounds, round.isPass = true) ∧
    ((conclude ["run", "--rounds", "0"] alone ()).transcript ⟨"", ""⟩).exit = 2 ∧
    ((conclude ["run", "--rounds", "0"] alone ()).transcript ⟨"", ""⟩).stdout = "" := by
  have hwide : CommandLine.parse wideArguments = .ok ⟨.run wideOptions, false⟩ := rfl
  have hzero : CommandLine.parse ["run", "--rounds", "0"] = .ok ⟨.run { config := { rounds := 0 } }, false⟩ := rfl
  have hpass := exit_truthful wideArguments alone () ⟨"", ""⟩ hwide nofun
  have hrejected := exit_truthful ["run", "--rounds", "0"] alone () ⟨"", ""⟩ hzero nofun
  have htwo := hrejected.two_iff.mpr (.rounds rfl)
  exact ⟨(hpass.zero_iff.mp (by decide +kernel)).2, htwo, (hrejected.rejected htwo).1⟩

theorem ready_wide : Ready wideOptions Network.unreachable ⟨1⟩ () ⟨1⟩ .memory () :=
  ⟨by decide, by decide, rfl, rfl, [], rfl⟩

/-- Interrupts in the course of the last read, and when the run is over. -/
def impatient : Surroundings Unit := { alone with interrupts := [.duringCall 3, .beforeReport] }

/-- Setup succeeds, all rounds are completed and pass, the signal does not end the run, and yet the second interrupt
makes the status 130, and there is no report. -/
theorem second_interrupt_outweighs_pass :
    CommandLine.parse wideArguments = .ok ⟨.run wideOptions, false⟩ ∧ .beforeRun ∉ impatient.interrupts ∧
    (∃ r rounds raised, Ran wideOptions .unreachable ⟨1⟩ impatient.interrupts () r rounds raised ∧
      rounds.length = 2 ∧ (∀ round ∈ rounds, round.isPass = true) ∧ r.cancelled = false) ∧
    ((conclude wideArguments impatient ()).transcript ⟨"", ""⟩).exit = 130 ∧
    ((conclude wideArguments impatient ()).transcript ⟨"", ""⟩).stdout = "" := by
  have hquiet : .beforeRun ∉ impatient.interrupts := by decide
  obtain ⟨hpass, hexit, hstdout⟩ :
      (play .direct wideOptions .unreachable .memory ⟨1⟩ impatient.interrupts ()).result.toOption.any
        (fun r => (RunStatus.ofResult r).exitCode = 0) = true ∧
      ((conclude wideArguments impatient ()).transcript ⟨"", ""⟩).exit = 130 ∧
      ((conclude wideArguments impatient ()).transcript ⟨"", ""⟩).stdout = "" := by decide +kernel
  obtain ⟨r, rounds, raised, hran⟩ := ready_wide.ran hquiet
  rw [hran.result_eq ready_wide] at hpass
  have hzero : (RunStatus.ofResult r).exitCode = 0 := of_decide_eq_true hpass
  obtain ⟨hlength, hrounds⟩ := hran.spec.exitCode_eq_zero_iff.mp hzero
  refine ⟨rfl, hquiet, ⟨r, rounds, raised, hran, hlength, hrounds, ?_⟩, hexit, hstdout⟩
  rw [← Bool.not_eq_true, hran.spec.cancelled_iff_length, hlength]
  exact fun h => Nat.lt_irrefl _ h.1

end Program

end Readback
