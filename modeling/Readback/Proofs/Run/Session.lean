import Readback.Proofs.Adapter.Calls
import Readback.Proofs.Run.Interference

/-!
# Sessions

A session is a sequence of runs, of any kinds and against any adapters, that share the flags of their signals. Nothing
else needs to be shared: what a run is given, the state of its adapter and its generator included, may come from
anywhere, also from earlier runs. Signals can also be raised between runs.

- a flag once raised stays raised through every round, run and step (`isRaised_play`, `Task.isRaised_run`,
  `isRaised_signalsAt`);
- a run that is cancelled was given a signal and leaves it raised (`Task.stopRequested_of_cancelled`), and a run that is
  given a raised signal is refused before it calls its adapter (`Task.run_of_isRaised`); so no two runs are cancelled
  by one signal (`cancelledAt_unique`);
- a run does not notice the signals that it is not given (`Task.SameBut.run`);
- **`session_law`** states all this of every run of a session.
-/

namespace Readback

variable {σ V α : Type}

/-! ## Flags stay raised -/

theorem Bench.isRaised_absorb {b : Bench σ V} {signal : StopSignal} (h : b.signals.isRaised signal = true)
    (r : Reply σ α) : (b.absorb r).signals.isRaised signal = true :=
  (Signals.isRaised_raiseAll _ _ _).mpr (.inr h)

/-- A round lowers no flag. -/
theorem Bench.isRaised_play (adapter : Adapter σ V) {b : Bench σ V} {signal : StopSignal}
    (h : b.signals.isRaised signal = true) (index : UInt64) :
    (b.play adapter index).2.signals.isRaised signal = true := by
  have hwritten : (b.written adapter index).signals.isRaised signal = true := isRaised_absorb h _
  have hback : (b.readBack adapter index).signals.isRaised signal = true := isRaised_absorb hwritten _
  rcases signals_play adapter b index with hflags | hflags
  · rw [hflags]; exact hwritten
  · rw [hflags]; exact hback

namespace Engine

variable {e : Engine} {stop : Option StopSignal} {adapter : Adapter σ V}

theorem isRaised_loop {signal : StopSignal} (left : Nat) (index : UInt64) {p : Progress σ V}
    (h : p.bench.signals.isRaised signal = true) :
    (e.loop stop adapter left index p).bench.signals.isRaised signal = true := by
  induction left generalizing index p with
  | zero => exact h
  | succ left ih =>
    have hplay := Bench.isRaised_play adapter h index
    simp only [loop]
    split
    · exact h
    · split
      · exact hplay
      · exact ih (index + 1) hplay

theorem isRaised_drive {signal : StopSignal} {b : Bench σ V} (h : b.signals.isRaised signal = true) :
    (e.drive stop adapter b).2.signals.isRaised signal = true := by
  simp only [drive]
  cases e.config.validate with
  | error err => exact h
  | ok _ =>
    dsimp only
    split
    · exact h
    · exact isRaised_loop _ _ h

/-! ## Cancelled and refused runs -/

/-- A run that is cancelled leaves its signal raised. -/
theorem stopRequested_of_cancelled {b : Bench σ V} {r : RunResult V} (h : (e.drive stop adapter b).1 = .ok r)
    (hcancelled : r.cancelled = true) : stopRequested stop (e.drive stop adapter b).2.signals = true := by
  obtain ⟨n, b', hcut, rfl, hdrive, hquiet⟩ := drive_ok_cases h
  obtain ⟨hfails, hlt⟩ := cancelled_resultAt.mp hcancelled
  have hends := hcut.ends.resolve_left (Nat.ne_of_lt hlt)
  rw [EndsAt, hfails] at hends
  rw [hdrive, (Bench.quiet_eq_iff.mp hquiet).2.2]
  exact (hends.resolve_left Bool.false_ne_true).2

theorem drive_of_isRaised {b : Bench σ V} (hvalid : e.config.validate = .ok ())
    (hstop : stopRequested stop b.signals = true) : e.drive stop adapter b = (.error .staleSignal, b) := by
  rw [drive, hvalid]
  exact if_pos hstop

end Engine

/-! ## Tasks -/

/-- Where the values of a run come from. -/
inductive Source (V : Type) where
  /-- A domain and a seed; the signal, if there is one, can end the run early. -/
  | seeded (domain : Domain V) (seed : Seed) (stop : Option StopSignal)
  /-- A generator that the caller goes on using. -/
  | given (generator : Generator V)

/-- The generator of a run, unless its domain is refused. -/
def Source.generator : Source V → Except SetupError (Generator V)
  | .seeded domain seed _ => Generator.new domain seed
  | .given generator => .ok generator

/-- A run with all that it is given. -/
structure Task (σ V : Type) where
  engine : Engine
  source : Source V
  adapter : Adapter σ V
  state : σ

namespace Task

/-- The signal that a run is given. -/
def stop (t : Task σ V) : Option StopSignal :=
  match t.source with
  | .seeded _ _ stop => stop
  | .given _ => none

/-- Carries out a run. -/
def run (t : Task σ V) (signals : Signals) : Engine.Ending σ V :=
  match t.source with
  | .seeded domain seed stop => t.engine.run domain seed stop t.adapter t.state signals
  | .given generator => (t.engine.runWith generator t.adapter t.state signals).1

/-- Neither the domain nor the configuration keeps a run from starting. -/
structure Valid (t : Task σ V) : Prop where
  domain : ∃ generator, t.source.generator = .ok generator
  config : t.engine.config.validate = .ok ()

/-- The same run with a record of the calls made of its adapter. -/
def traced (t : Task σ V) : Task (List (Call V) × σ) V := ⟨t.engine, t.source, t.adapter.traced, [], t.state⟩

theorem Valid.traced {t : Task σ V} (h : t.Valid) : t.traced.Valid := ⟨h.domain, h.config⟩

/-- The bench that a run starts on. -/
def bench (t : Task σ V) (generator : Generator V) (signals : Signals) : Bench σ V :=
  { generator, adapter := t.state, signals }

theorem run_of_error {t : Task σ V} {err : SetupError} (h : t.source.generator = .error err) (signals : Signals) :
    t.run signals = ⟨.error err, t.state, signals, #[]⟩ := by
  obtain ⟨engine, source, adapter, state⟩ := t
  cases source with
  | given generator => cases h
  | seeded domain seed stop =>
    simp only [Source.generator] at h
    simp only [run, Engine.run, h]

/-- A run that has a generator is one on a bench. -/
theorem run_of_ok {t : Task σ V} {generator : Generator V} (h : t.source.generator = .ok generator)
    (signals : Signals) :
    t.run signals =
      let (result, b) := t.engine.drive t.stop t.adapter (t.bench generator signals)
      ⟨result, b.adapter, b.signals, b.log⟩ := by
  obtain ⟨engine, source, adapter, state⟩ := t
  cases source with
  | given generator =>
    cases h
    rfl
  | seeded domain seed stop =>
    simp only [Source.generator] at h
    simp only [run, Engine.run, h]
    rfl

/-- A run lowers no flag. -/
theorem isRaised_run (t : Task σ V) {signals : Signals} {signal : StopSignal} (h : signals.isRaised signal = true) :
    (t.run signals).signals.isRaised signal = true := by
  cases hg : t.source.generator with
  | error err =>
    rw [run_of_error hg]
    exact h
  | ok generator =>
    rw [run_of_ok hg]
    exact Engine.isRaised_drive h

/-- **A run that is cancelled was given a signal, and leaves it raised.** -/
theorem stopRequested_of_cancelled {t : Task σ V} {signals : Signals} {r : RunResult V}
    (h : (t.run signals).result = .ok r) (hcancelled : r.cancelled = true) :
    Engine.stopRequested t.stop (t.run signals).signals = true := by
  cases hg : t.source.generator with
  | error err =>
    rw [run_of_error hg] at h
    cases h
  | ok generator =>
    rw [run_of_ok hg] at h ⊢
    exact Engine.stopRequested_of_cancelled h hcancelled

theorem not_stopRequested_of_ok {t : Task σ V} {signals : Signals} {r : RunResult V}
    (h : (t.run signals).result = .ok r) : Engine.stopRequested t.stop signals = false := by
  cases hg : t.source.generator with
  | error err =>
    rw [run_of_error hg] at h
    cases h
  | ok generator =>
    rw [run_of_ok hg] at h
    exact (Engine.drive_ok h).2

/-- **A run that is given a raised signal is refused**, unless something else is wrong with it, and neither its adapter
nor the flags change. -/
theorem run_of_isRaised {t : Task σ V} {signals : Signals} {signal : StopSignal} (hvalid : t.Valid)
    (hstop : t.stop = some signal) (h : signals.isRaised signal = true) :
    t.run signals = ⟨.error .staleSignal, t.state, signals, #[]⟩ := by
  obtain ⟨generator, hg⟩ := hvalid.domain
  have hraised : Engine.stopRequested t.stop (t.bench generator signals).signals = true := by rw [hstop]; exact h
  rw [run_of_ok hg, Engine.drive_of_isRaised hvalid.config hraised]
  rfl

/-- Two runs that differ at most in when their adapters raise one signal. -/
structure SameBut (signal : StopSignal) (t t' : Task σ V) : Prop where
  engine : t'.engine = t.engine
  source : t'.source = t.source
  adapter : t.adapter.Indistinct (.ignoring signal) (· = ·) t'.adapter
  state : t'.state = t.state

/-- **A run does not notice a signal that it is not given**, whether that is raised before it, during it, or not at
all. -/
theorem SameBut.run {signal : StopSignal} {t t' : Task σ V} (h : SameBut signal t t') (hstop : t.stop ≠ some signal)
    {signals signals' : Signals} (hsignals : signals.Indistinct (.ignoring signal) signals') :
    (t.run signals).Indistinct (.ignoring signal) (· = ·) (t'.run signals') := by
  have hstop' : t'.stop = t.stop := by rw [stop, stop, h.source]
  cases hg : t.source.generator with
  | error err =>
    have hg' : t'.source.generator = .error err := h.source ▸ hg
    rw [run_of_error hg, run_of_error hg']
    exact ⟨rfl, h.state.symm, hsignals, fun _ => rfl⟩
  | ok generator =>
    have hg' : t'.source.generator = .ok generator := h.source ▸ hg
    have hsees (other : StopSignal) (hother : t.stop = some other) : (Observer.ignoring signal).sees other :=
      fun heq => hstop (heq ▸ hother)
    have hbench : (t.bench generator signals).Indistinct (.ignoring signal) (· = ·) (t'.bench generator signals') :=
      ⟨rfl, h.state.symm, hsignals, fun _ => rfl⟩
    obtain ⟨hresult, hended⟩ := t.engine.drive_indistinct hsees h.adapter hbench
    rw [run_of_ok hg, run_of_ok hg', h.engine, hstop']
    exact ⟨hresult, hended.adapter, hended.signals, hended.log⟩

end Task

/-! ## Sessions -/

namespace Session

/-- A step of a session: a signal is raised, or a run is carried out. -/
inductive Step : Type 1 where
  | raise (signal : StopSignal)
  | run {σ V : Type} (task : Task σ V)

/-- The flags after a step. -/
def Step.signals (s : Signals) : Step → Signals
  | .raise signal => s.raise signal
  | .run task => (task.run s).signals

/-- The flags when `i` steps of a session are done. -/
def signalsAt (session : List Step) (start : Signals) (i : Nat) : Signals := (session.take i).foldl Step.signals start

/-- The run at a place of a session is given the signal and is cancelled. -/
def CancelledAt (session : List Step) (start : Signals) (signal : StopSignal) (i : Nat) : Prop :=
  ∃ (σ V : Type) (t : Task σ V) (r : RunResult V), session[i]? = some (.run t) ∧ t.stop = some signal ∧
    (t.run (signalsAt session start i)).result = .ok r ∧ r.cancelled = true

variable {session : List Step} {start : Signals} {signal : StopSignal} {i j : Nat}

theorem isRaised_foldl {s : Signals} (h : s.isRaised signal = true) (steps : List Step) :
    (steps.foldl Step.signals s).isRaised signal = true := by
  induction steps generalizing s with
  | nil => exact h
  | cons step steps ih =>
    refine ih ?_
    cases step with
    | raise other => exact (Signals.isRaised_raise _ _ _).mpr (.inr h)
    | run task => exact task.isRaised_run h

/-- **A flag once raised stays raised.** -/
theorem isRaised_signalsAt (hij : i ≤ j) (h : (signalsAt session start i).isRaised signal = true) :
    (signalsAt session start j).isRaised signal = true := by
  obtain ⟨k, rfl⟩ := Nat.exists_eq_add_of_le hij
  rw [signalsAt, List.take_add, List.foldl_append]
  exact isRaised_foldl h _

theorem signalsAt_succ {step : Step} (h : session[i]? = some step) :
    signalsAt session start (i + 1) = step.signals (signalsAt session start i) := by
  rw [signalsAt, List.take_add_one, h, List.foldl_append]
  rfl

/-- A run that is cancelled leaves its signal raised for all that come after it. -/
theorem CancelledAt.isRaised (h : CancelledAt session start signal i) (hij : i < j) :
    (signalsAt session start j).isRaised signal = true := by
  obtain ⟨σ, V, t, r, hstep, hstop, hresult, hcancelled⟩ := h
  refine isRaised_signalsAt hij ?_
  have hraised := Task.stopRequested_of_cancelled hresult hcancelled
  rw [hstop] at hraised
  rw [signalsAt_succ hstep]
  exact hraised

theorem CancelledAt.not_isRaised (h : CancelledAt session start signal i) :
    (signalsAt session start i).isRaised signal = false := by
  obtain ⟨σ, V, t, r, hstep, hstop, hresult, hcancelled⟩ := h
  have hfresh := Task.not_stopRequested_of_ok hresult
  rwa [hstop] at hfresh

/-- **A signal cancels at most one run.** -/
theorem cancelledAt_unique (hi : CancelledAt session start signal i) (hj : CancelledAt session start signal j) :
    i = j := by
  -- The earlier of two would leave the signal raised, and then the later would be refused.
  rcases Nat.lt_trichotomy i j with hlt | heq | hlt
  · exact absurd (hi.isRaised hlt) (by simp [hj.not_isRaised])
  · exact heq
  · exact absurd (hj.isRaised hlt) (by simp [hi.not_isRaised])

/-- **The law of sessions.** In every session of runs, and for every signal, whoever shares it:

- at most one run that is given the signal is cancelled;
- a run that is given the signal after it was raised, and that nothing else is wrong with, is refused for its signal,
  and makes no call;
- a run that is given no signal is not cancelled;
- a run that is not given this signal has the same result and the same log whether the signal is raised before it,
  by its adapter, or not at all. -/
theorem session_law (session : List Step) (start : Signals) (signal : StopSignal) :
    (∀ i j, CancelledAt session start signal i → CancelledAt session start signal j → i = j) ∧
    (∀ (i j : Nat) (σ V : Type) (t : Task σ V), i ≤ j → (signalsAt session start i).isRaised signal = true →
      session[j]? = some (.run t) → t.stop = some signal → t.Valid →
        ∃ message, (t.run (signalsAt session start j)).result = .error (.invalidConfig "stop_signal" message) ∧
          (t.run (signalsAt session start j)).adapter = t.state ∧
          (t.traced.run (signalsAt session start j)).result = .error (.invalidConfig "stop_signal" message) ∧
          (t.traced.run (signalsAt session start j)).adapter = ([], t.state)) ∧
    (∀ (j : Nat) (σ V : Type) (t : Task σ V) (r : RunResult V), session[j]? = some (.run t) → t.stop = none →
      (t.run (signalsAt session start j)).result = .ok r → r.cancelled = false) ∧
    (∀ (j : Nat) (σ V : Type) (t t' : Task σ V) (signals' : Signals), session[j]? = some (.run t) →
      t.stop ≠ some signal → t.SameBut signal t' →
      (signalsAt session start j).Indistinct (.ignoring signal) signals' →
        (t'.run signals').result = (t.run (signalsAt session start j)).result ∧
        (t'.run signals').log = (t.run (signalsAt session start j)).log) := by
  refine ⟨fun i j => cancelledAt_unique, ?_, ?_, ?_⟩
  · intro i j σ V t hij hraised _ hstop hvalid
    have hnow := isRaised_signalsAt hij hraised
    have hrun := Task.run_of_isRaised hvalid hstop hnow
    have htraced := Task.run_of_isRaised hvalid.traced hstop hnow
    exact ⟨_, congrArg Engine.Ending.result hrun, congrArg Engine.Ending.adapter hrun,
      congrArg Engine.Ending.result htraced, congrArg Engine.Ending.adapter htraced⟩
  · intro j σ V t r _ hstop hresult
    rw [← Bool.not_eq_true]
    intro hcancelled
    have hraised := Task.stopRequested_of_cancelled hresult hcancelled
    rw [hstop] at hraised
    cases hraised
  · intro j σ V t t' signals' _ hstop hsame hsignals
    have hends := hsame.run hstop hsignals
    exact ⟨hends.result, hends.log trivial⟩

/-! A session in which an adapter raises a signal that three runs could be given. -/

/-- The memory cell, with a signal raised at every write. -/
def ringingCell (signal : StopSignal) : Adapter (Option Int64) Int64 where
  write v s := { (memoryCell Int64).write v s with raises := [signal] }
  read := (memoryCell Int64).read

theorem ringingCell_indistinct_memoryCell (signal : StopSignal) :
    (ringingCell signal).Indistinct (.ignoring signal) (· = ·) (memoryCell Int64) where
  write v h := by
    subst h
    exact ⟨rfl, rfl, fun other hother => ⟨nofun, fun hmem => absurd (List.mem_singleton.mp hmem) hother⟩, fun _ => rfl⟩
  read h := by
    subst h
    exact ⟨rfl, rfl, fun _ _ => Iff.rfl, fun _ => rfl⟩

/-- Three rounds of sevens against a cell. -/
def sevensTask (adapter : Adapter (Option Int64) Int64) (stop : Option StopSignal) : Task (Option Int64) Int64 :=
  ⟨⟨{ rounds := 3 }⟩, .seeded Engine.sevens ⟨1⟩ stop, adapter, none⟩

/-- Three runs; the first two are given the signal that the cell raises, the third is not. -/
def ringingSession : List Step :=
  [.run (sevensTask (ringingCell ⟨0⟩) (some ⟨0⟩)), .run (sevensTask (ringingCell ⟨0⟩) (some ⟨0⟩)),
    .run (sevensTask (ringingCell ⟨0⟩) none)]

/-- The first run is cancelled and no other is, the second is refused, and the third does not notice the signal. -/
theorem session_law_ringing :
    CancelledAt ringingSession .none ⟨0⟩ 0 ∧ (∀ j, CancelledAt ringingSession .none ⟨0⟩ j → j = 0) ∧
    (∃ message, ((sevensTask (ringingCell ⟨0⟩) (some ⟨0⟩)).run (signalsAt ringingSession .none 1)).result =
      .error (.invalidConfig "stop_signal" message)) ∧
    (∃ r, ((sevensTask (ringingCell ⟨0⟩) none).run (signalsAt ringingSession .none 2)).result = .ok r ∧
      r.cancelled = false ∧ r.roundsCompleted = 3) ∧
    ((sevensTask (memoryCell Int64) none).run .none).result =
      ((sevensTask (ringingCell ⟨0⟩) none).run (signalsAt ringingSession .none 2)).result := by
  obtain ⟨hunique, hrefused, hnever, hsame⟩ := session_law ringingSession .none ⟨0⟩
  have hfirst : CancelledAt ringingSession .none ⟨0⟩ 0 := ⟨_, _, _, _, rfl, rfl, rfl, rfl⟩
  obtain ⟨message, hsecond, -⟩ := hrefused 1 1 _ _ _ (Nat.le_refl 1) rfl rfl rfl ⟨⟨_, rfl⟩, rfl⟩
  obtain ⟨r, hthird, hcompleted⟩ : ∃ r, ((sevensTask (ringingCell ⟨0⟩) none).run
      (signalsAt ringingSession .none 2)).result = .ok r ∧ r.roundsCompleted = 3 := ⟨_, rfl, rfl⟩
  refine ⟨hfirst, fun j hj => hunique j 0 hj hfirst, ⟨message, hsecond⟩,
    ⟨r, hthird, hnever 2 _ _ _ r rfl rfl hthird, hcompleted⟩, ?_⟩
  have hflags : (signalsAt ringingSession .none 2).Indistinct (.ignoring ⟨0⟩) .none := by
    intro other hother
    have hraised := Signals.isRaised_raise .none ⟨0⟩ other
    rw [Bool.eq_iff_iff]
    exact ⟨fun h => hraised.mpr (.inr h), fun h => (hraised.mp h).resolve_left hother⟩
  exact (hsame 2 _ _ _ (sevensTask (memoryCell Int64) none) .none rfl nofun
    ⟨rfl, rfl, ringingCell_indistinct_memoryCell ⟨0⟩, rfl⟩ hflags).1

end Session

end Readback
