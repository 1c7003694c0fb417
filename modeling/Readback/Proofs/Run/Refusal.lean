import Readback.Domain.IntRange
import Readback.Proofs.Run.Session

/-!
# Runs that are refused

Three things keep a run from starting: its domain holds no value, it has no rounds, or its signal is raised already.
They are looked at in this order, and a run is refused for the first of them (`Refuses`). A run with a generator of the
caller's has neither a domain to check nor a signal.

- on a bench, an engine refuses for the rounds or the signal, and leaves the bench alone, or it has a result
  (`drive_of_no_rounds`, `drive_of_isRaised`, `drive_of_admitted`);
- a domain is refused before the engine is asked (`Generator.new_eq_error_iff`, `run_of_invalid`);
- every run is refused exactly for the reasons given, without a call, a value drawn, a flag raised or a line logged;
  and nothing that an adapter does ever refuses a run (`run_refused_iff`).
-/

namespace Readback

variable {σ V : Type}

/-- A generator is refused exactly if its domain has no sampler, and for the same reason. -/
theorem Generator.new_eq_error_iff {domain : Domain V} {seed : Seed} {err : SetupError} :
    Generator.new domain seed = .error err ↔ domain.sampler = .error err := by
  unfold Generator.new
  cases domain.sampler with
  | error err' => simp [Except.map]
  | ok sampler => simp [Except.map]

namespace Engine

/-! ## The reasons -/

/-- Why a run is refused: the first of the three checks that fails. -/
inductive Refuses (e : Engine) (domain : Domain V) (stop : Option StopSignal) (signals : Signals) : SetupError → Prop
  | domain {err : SetupError} : domain.sampler = .error err → Refuses e domain stop signals err
  | rounds {sampler : Sampler V} : domain.sampler = .ok sampler → e.config.rounds = 0 →
      Refuses e domain stop signals .noRounds
  | signal {sampler : Sampler V} {signal : StopSignal} : domain.sampler = .ok sampler → e.config.rounds ≠ 0 →
      stop = some signal → signals.isRaised signal = true → Refuses e domain stop signals .staleSignal

/-- What is wrong with a run, in no order. -/
def Faulted (e : Engine) (domain : Domain V) (stop : Option StopSignal) (signals : Signals) : Prop :=
  (∃ err, domain.sampler = .error err) ∨ e.config.rounds = 0 ∨
    ∃ signal, stop = some signal ∧ signals.isRaised signal = true

variable {e : Engine} {domain : Domain V} {stop : Option StopSignal} {adapter : Adapter σ V} {signals : Signals}
  {err : SetupError}

theorem stopRequested_iff :
    stopRequested stop signals = true ↔ ∃ signal, stop = some signal ∧ signals.isRaised signal = true := by
  cases stop with
  | none => simp [stopRequested]
  | some signal => simp [stopRequested]

/-- Something is wrong with a run exactly if there is a reason to refuse it. -/
theorem faulted_iff : e.Faulted domain stop signals ↔ ∃ err, e.Refuses domain stop signals err := by
  constructor
  · intro h
    cases hdomain : domain.sampler with
    | error err => exact ⟨err, .domain hdomain⟩
    | ok sampler =>
      by_cases hzero : e.config.rounds = 0
      · exact ⟨_, .rounds hdomain hzero⟩
      · rcases h with ⟨err, herr⟩ | hrounds | ⟨signal, hstop, hraised⟩
        · cases hdomain.symm.trans herr
        · exact absurd hrounds hzero
        · exact ⟨_, .signal hdomain hzero hstop hraised⟩
  · rintro ⟨err, hrefuses⟩
    cases hrefuses with
    | domain herr => exact .inl ⟨_, herr⟩
    | rounds _ hzero => exact .inr (.inl hzero)
    | signal _ _ hstop hraised => exact .inr (.inr ⟨_, hstop, hraised⟩)

/-! ## On a bench -/

theorem drive_of_no_rounds (h : e.config.rounds = 0) (b : Bench σ V) :
    e.drive stop adapter b = (.error .noRounds, b) := by
  unfold drive Config.validate
  rw [if_pos h]

/-- **What passes the checks has a result**, whatever the adapter answers. -/
theorem drive_of_admitted (adapter : Adapter σ V) (b : Bench σ V) (hrounds : e.config.rounds ≠ 0)
    (hstop : stopRequested stop b.signals = false) : ∃ r b', e.drive stop adapter b = (.ok r, b') := by
  obtain ⟨n, b', -, hdrive, -⟩ := drive_eq_resultAt e stop adapter b (one_le_iff_ne_zero.mpr hrounds) hstop
  exact ⟨_, b', hdrive⟩

/-! ## Runs over a domain -/

variable {seed : Seed} {state : σ}

theorem run_of_invalid (h : domain.sampler = .error err) :
    e.run domain seed stop adapter state signals = ⟨.error err, state, signals, #[]⟩ := by
  unfold run
  rw [Generator.new_eq_error_iff.mpr h]

theorem exists_generator {sampler : Sampler V} (h : domain.sampler = .ok sampler) (seed : Seed) :
    ∃ generator, Generator.new domain seed = .ok generator := by
  unfold Generator.new
  rw [h]
  exact ⟨_, rfl⟩

/-- **A run with a reason against it is refused for it**, and ends as it began. -/
theorem Refuses.run (h : e.Refuses domain stop signals err) (seed : Seed) (adapter : Adapter σ V) (state : σ) :
    e.run domain seed stop adapter state signals = ⟨.error err, state, signals, #[]⟩ := by
  cases h with
  | domain herr => exact run_of_invalid herr
  | rounds hok hzero =>
    obtain ⟨generator, hnew⟩ := exists_generator hok seed
    exact run_eq_of_drive hnew (drive_of_no_rounds hzero _)
  | signal hok hrounds hstop hraised =>
    obtain ⟨generator, hnew⟩ := exists_generator hok seed
    have hvalid : e.config.validate = .ok () := if_neg hrounds
    exact run_eq_of_drive hnew (drive_of_isRaised hvalid (stopRequested_iff.mpr ⟨_, hstop, hraised⟩))

/-- A run with no reason against it has a result. -/
theorem run_of_not_faulted (h : ¬ e.Faulted domain stop signals) (seed : Seed) (adapter : Adapter σ V) (state : σ) :
    ∃ r, (e.run domain seed stop adapter state signals).result = .ok r := by
  simp only [Faulted, not_or] at h
  obtain ⟨hdomain, hrounds, hstop⟩ := h
  cases hok : domain.sampler with
  | error err => exact absurd ⟨err, hok⟩ hdomain
  | ok sampler =>
    obtain ⟨generator, hnew⟩ := exists_generator hok seed
    rw [← stopRequested_iff, Bool.not_eq_true] at hstop
    obtain ⟨r, b', hdrive⟩ := drive_of_admitted adapter ⟨generator, state, signals, #[]⟩ hrounds hstop
    exact ⟨r, congrArg Ending.result (run_eq_of_drive hnew hdrive)⟩

/-! ## Every way into the engine -/

/-- How a run ends, with and without a record of its calls, if these are the reasons to refuse it: it is refused for one
of them, with no call made, no flag raised and no line logged, or else it has a result. -/
structure Gated (reason : SetupError → Prop) (state : σ) (signals : Signals) (ending : Ending σ V)
    (traced : Ending (List (Call V) × σ) V) : Prop where
  error_iff (err : SetupError) : ending.result = .error err ↔ reason err
  untouched (err : SetupError) : reason err → ending = ⟨.error err, state, signals, #[]⟩
  uncalled (err : SetupError) : reason err → traced = ⟨.error err, ([], state), signals, #[]⟩
  runs : (∀ err, ¬ reason err) → ∃ r, ending.result = .ok r

theorem Gated.mk_of_cases {reason : SetupError → Prop} {ending : Ending σ V}
    {traced : Ending (List (Call V) × σ) V}
    (hrefused : ∀ err, reason err →
      ending = ⟨.error err, state, signals, #[]⟩ ∧ traced = ⟨.error err, ([], state), signals, #[]⟩)
    (hruns : (∀ err, ¬ reason err) → ∃ r, ending.result = .ok r) : Gated reason state signals ending traced where
  error_iff err := by
    constructor
    · intro h
      by_cases hsome : ∃ err', reason err'
      · obtain ⟨err', hreason⟩ := hsome
        rw [(hrefused err' hreason).1] at h
        rwa [← Except.error.inj h]
      · obtain ⟨r, hr⟩ := hruns (not_exists.mp hsome)
        cases hr.symm.trans h
    · intro hreason
      rw [(hrefused err hreason).1]
  untouched err hreason := (hrefused err hreason).1
  uncalled err hreason := (hrefused err hreason).2
  runs := hruns

theorem runWith_of_no_rounds (h : e.config.rounds = 0) (generator : Generator V) (adapter : Adapter σ V) (state : σ)
    (signals : Signals) :
    e.runWith generator adapter state signals = (⟨.error .noRounds, state, signals, #[]⟩, generator) := by
  unfold runWith
  rw [drive_of_no_rounds h]

/-- **Runs are refused for three reasons and no others.** Over a domain and a seed, with or without a signal, a run is
refused exactly if the domain holds no value, the run has no rounds, or the signal is raised already; of several reasons
the first in this order counts. A run with a generator of the caller's is refused exactly if it has no rounds. What is
refused makes no call and leaves the adapter, the flags, the generator and the log as they were; all else has a result,
whatever the adapter answers. -/
theorem run_refused_iff (e : Engine) (adapter : Adapter σ V) (state : σ) (signals : Signals) :
    (∀ (domain : Domain V) (seed : Seed) (stop : Option StopSignal),
      ((∃ err, (e.run domain seed stop adapter state signals).result = .error err) ↔ e.Faulted domain stop signals) ∧
      Gated (e.Refuses domain stop signals) state signals (e.run domain seed stop adapter state signals)
        (e.run domain seed stop adapter.traced ([], state) signals)) ∧
    ∀ generator : Generator V,
      Gated (fun err => e.config.rounds = 0 ∧ err = .noRounds) state signals
        (e.runWith generator adapter state signals).1 (e.runWith generator adapter.traced ([], state) signals).1 ∧
      (e.config.rounds = 0 → (e.runWith generator adapter state signals).2 = generator) := by
  constructor
  · intro domain seed stop
    have hgated : Gated (e.Refuses domain stop signals) state signals (e.run domain seed stop adapter state signals)
        (e.run domain seed stop adapter.traced ([], state) signals) := by
      refine .mk_of_cases (fun err h => ⟨h.run seed adapter state, h.run seed adapter.traced ([], state)⟩) ?_
      intro hnone
      exact run_of_not_faulted (fun h => not_exists.mpr hnone (faulted_iff.mp h)) seed adapter state
    refine ⟨?_, hgated⟩
    simp only [hgated.error_iff]
    exact faulted_iff.symm
  · intro generator
    constructor
    · refine .mk_of_cases ?_ ?_
      · rintro err ⟨hzero, rfl⟩
        simp only [runWith_of_no_rounds hzero]
        exact ⟨trivial, trivial⟩
      · intro hnone
        have hrounds : e.config.rounds ≠ 0 := fun hzero => hnone _ ⟨hzero, rfl⟩
        have hstop : stopRequested none signals = false := rfl
        obtain ⟨r, b', hdrive⟩ := drive_of_admitted adapter ⟨generator, state, signals, #[]⟩ hrounds hstop
        exact ⟨r, by simp only [runWith, hdrive]⟩
    · intro hzero
      rw [runWith_of_no_rounds hzero]

/-- Bounds out of order, no rounds and a raised signal, all at once: the bounds are refused, then the rounds, then the
signal; and a cell that refuses every write is no reason. -/
theorem run_refused_iff_all_at_once :
    ((Engine.mk { rounds := 0 }).run (Bounds.mk 5 1).domain ⟨1⟩ (some ⟨0⟩) (memoryCell Int64) none ⟨[⟨0⟩]⟩).result =
      .error (.invalidDomain "min (5) must not exceed max (1)") ∧
    ((Engine.mk { rounds := 0 }).run sevens ⟨1⟩ (some ⟨0⟩) (memoryCell Int64) none ⟨[⟨0⟩]⟩).result =
      .error (.invalidConfig "rounds" "must be a positive integer") ∧
    (Engine.mk { rounds := 3 }).run sevens ⟨1⟩ (some ⟨0⟩) (memoryCell Int64).traced ([], none) ⟨[⟨0⟩]⟩ =
      ⟨.error (.invalidConfig "stop_signal" "was raised before the run started"), ([], none), ⟨[⟨0⟩]⟩, #[]⟩ ∧
    ∃ r, ((Engine.mk { rounds := 3 }).run sevens ⟨1⟩ none
      ⟨fun _ s => .fail "read-only" s, (memoryCell Int64).read⟩ none ⟨[⟨0⟩]⟩).result = .ok r := by
  obtain ⟨hnone, -⟩ := run_refused_iff (Engine.mk { rounds := 0 }) (memoryCell Int64) none ⟨[⟨0⟩]⟩
  obtain ⟨hthree, -⟩ := run_refused_iff (Engine.mk { rounds := 3 }) (memoryCell Int64) none ⟨[⟨0⟩]⟩
  obtain ⟨hbroken, -⟩ := run_refused_iff (Engine.mk { rounds := 3 })
    ⟨fun _ s => .fail "read-only" s, (memoryCell Int64).read⟩ none ⟨[⟨0⟩]⟩
  refine ⟨?_, ?_, ?_, ?_⟩
  · exact ((hnone (Bounds.mk 5 1).domain ⟨1⟩ (some ⟨0⟩)).2.error_iff _).mpr (.domain rfl)
  · exact ((hnone sevens ⟨1⟩ (some ⟨0⟩)).2.error_iff _).mpr (.rounds rfl rfl)
  · exact (hthree sevens ⟨1⟩ (some ⟨0⟩)).2.uncalled _ (.signal rfl (by decide) rfl rfl)
  · refine (hbroken sevens ⟨1⟩ none).2.runs fun err h => ?_
    cases h with
    | domain herr => cases herr
    | rounds _ hzero => exact absurd hzero (by decide)
    | signal _ _ hstop _ => cases hstop

end Engine

end Readback
