import Readback.Proofs.Run.Course

/-!
# Signals that a run does not see

A run looks at the flag of its own signal and at no other, and an adapter at none at all. So two runs that differ only
in signals that neither of them is given cannot be told apart. An `Observer` says what is compared: the flags of some
signals, and the log or not; what it cannot see may differ in any way.

- adapters that an observer cannot tell apart give the same answers (`Adapter.Indistinct`), and one round against the
  one is the same round against the other, whatever the observer sees (`play_indistinct`);
- if the observer sees the signal of the run, the loop and the whole run are the same too (`loop_indistinct`,
  `drive_indistinct`, `run_indistinct`).
-/

namespace Readback

variable {σ τ V α : Type}

/-! ## Observers -/

/-- What is compared of two runs. -/
structure Observer where
  /-- The signals whose flags are compared. -/
  sees : StopSignal → Prop
  /-- Whether the logs are compared. -/
  reads : Prop

namespace Observer

/-- Compares everything. -/
def full : Observer := ⟨fun _ => True, True⟩

/-- Compares everything but the flag of one signal. -/
def ignoring (signal : StopSignal) : Observer := ⟨(· ≠ signal), True⟩

/-- Compares neither flags nor logs. -/
def blind : Observer := ⟨fun _ => False, False⟩

end Observer

/-- Two states of the flags that an observer cannot tell apart. -/
def Signals.Indistinct (o : Observer) (s s' : Signals) : Prop :=
  ∀ signal, o.sees signal → s'.isRaised signal = s.isRaised signal

/-- Two replies that an observer cannot tell apart: the same answer, the same signals as far as they are seen, the same
notes if they are read, and related states. -/
structure Reply.Indistinct (o : Observer) (R : σ → τ → Prop) (r : Reply σ α) (r' : Reply τ α) : Prop where
  answer : r'.answer = r.answer
  state : R r.state r'.state
  raises (signal : StopSignal) : o.sees signal → (signal ∈ r'.raises ↔ signal ∈ r.raises)
  notes : o.reads → r'.notes = r.notes

/-- In related states the two adapters give replies that an observer cannot tell apart. -/
structure Adapter.Indistinct (o : Observer) (R : σ → τ → Prop) (a : Adapter σ V) (a' : Adapter τ V) : Prop where
  write {s : σ} {t : τ} (v : V) : R s t → (a.write v s).Indistinct o R (a'.write v t)
  read {s : σ} {t : τ} : R s t → (a.read s).Indistinct o R (a'.read t)

/-- Two benches that an observer cannot tell apart. -/
structure Bench.Indistinct (o : Observer) (R : σ → τ → Prop) (b : Bench σ V) (b' : Bench τ V) : Prop where
  generator : b'.generator = b.generator
  adapter : R b.adapter b'.adapter
  signals : b.signals.Indistinct o b'.signals
  log : o.reads → b'.log = b.log

variable {o : Observer} {R : σ → τ → Prop} {a : Adapter σ V} {a' : Adapter τ V}

theorem Signals.Indistinct.raiseAll {s s' : Signals} {raises raises' : List StopSignal} (h : s.Indistinct o s')
    (hraises : ∀ signal, o.sees signal → (signal ∈ raises' ↔ signal ∈ raises)) :
    (s.raiseAll raises).Indistinct o (s'.raiseAll raises') := by
  intro signal hsees
  rw [Bool.eq_iff_iff, isRaised_raiseAll, isRaised_raiseAll, hraises signal hsees, h signal hsees]

/-- An observer that sees the signal of a run sees whether it is to stop. -/
theorem Signals.Indistinct.stopRequested {s s' : Signals} (h : s.Indistinct o s') {stop : Option StopSignal}
    (hstop : ∀ signal, stop = some signal → o.sees signal) :
    Engine.stopRequested stop s' = Engine.stopRequested stop s := by
  cases stop with
  | none => rfl
  | some signal => exact h signal (hstop signal rfl)

/-! ## One round -/

namespace Bench

theorem Indistinct.absorb {b : Bench σ V} {b' : Bench τ V} (h : b.Indistinct o R b') {r : Reply σ α} {r' : Reply τ α}
    (hr : r.Indistinct o R r') : (b.absorb r).Indistinct o R (b'.absorb r') where
  generator := h.generator
  adapter := hr.state
  signals := h.signals.raiseAll hr.raises
  log hreads := by simp only [Bench.absorb, h.log hreads, hr.notes hreads]

theorem Indistinct.report {b : Bench σ V} {b' : Bench τ V} (h : b.Indistinct o R b') (x : Event V) :
    (b.report x).Indistinct o R (b'.report x) where
  generator := h.generator
  adapter := h.adapter
  signals := h.signals
  log hreads := by simp only [Bench.report, h.log hreads]

theorem Indistinct.writeReply {b : Bench σ V} {b' : Bench τ V} (h : b.Indistinct o R b') (ha : a.Indistinct o R a') :
    (b.writeReply a).Indistinct o R (b'.writeReply a') := by
  rw [Bench.writeReply, Bench.writeReply, h.generator]
  exact ha.write _ h.adapter

theorem Indistinct.readReply {b : Bench σ V} {b' : Bench τ V} (h : b.Indistinct o R b') (ha : a.Indistinct o R a') :
    (b.readReply a).Indistinct o R (b'.readReply a') := ha.read (h.writeReply ha).state

theorem Indistinct.written {b : Bench σ V} {b' : Bench τ V} (h : b.Indistinct o R b') (ha : a.Indistinct o R a')
    (index : UInt64) : (b.written a index).Indistinct o R (b'.written a' index) := by
  have hdrawn (g : Generator V) : Bench.Indistinct o R { b with generator := g } { b' with generator := g } :=
    ⟨rfl, h.adapter, h.signals, h.log⟩
  rw [Bench.written, Bench.written, h.generator]
  exact ((hdrawn _).report _).absorb (h.writeReply ha)

theorem Indistinct.readBack {b : Bench σ V} {b' : Bench τ V} (h : b.Indistinct o R b') (ha : a.Indistinct o R a')
    (index : UInt64) : (b.readBack a index).Indistinct o R (b'.readBack a' index) :=
  (h.written ha index).absorb (h.readReply ha)

/-- The flags after a round are those after its write, or after its read. -/
theorem signals_play (a : Adapter σ V) (b : Bench σ V) (index : UInt64) :
    (b.play a index).2.signals = (b.written a index).signals ∨
      (b.play a index).2.signals = (b.readBack a index).signals := by
  rcases b.exchange_cases a with ⟨e, hw⟩ | ⟨e, hw, hr⟩ | ⟨v, hw, hr, hv⟩ | ⟨v, hw, hr, hv⟩
  · rw [play_of_write_error index hw]; exact .inl rfl
  · rw [play_of_read_error index hw hr]; exact .inr rfl
  · rw [play_of_equivalent index hw hr hv]; exact .inr rfl
  · rw [play_of_not_equivalent index hw hr hv]; exact .inr rfl

/-- **One round against the one adapter is the same round against the other.** -/
theorem play_indistinct {b : Bench σ V} {b' : Bench τ V} (h : b.Indistinct o R b') (ha : a.Indistinct o R a')
    (index : UInt64) :
    (b'.play a' index).1 = (b.play a index).1 ∧ (b.play a index).2.Indistinct o R (b'.play a' index).2 := by
  have hwrite := (h.writeReply ha).answer
  have hread := (h.readReply ha).answer
  have hwritten := h.written ha index
  have hback := h.readBack ha index
  rcases b.exchange_cases a with ⟨e, hw⟩ | ⟨e, hw, hr⟩ | ⟨v, hw, hr, hv⟩ | ⟨v, hw, hr, hv⟩
  · rw [play_of_write_error index hw, play_of_write_error index (hwrite.trans hw), h.generator]
    exact ⟨rfl, hwritten.report _⟩
  · rw [play_of_read_error index hw hr, play_of_read_error index (hwrite.trans hw) (hread.trans hr), h.generator]
    exact ⟨rfl, hback.report _⟩
  · have hv' : b'.generator.domain.equivalent b'.generator.next.1 v = true := by rw [h.generator, hv]
    rw [play_of_equivalent index hw hr hv, play_of_equivalent index (hwrite.trans hw) (hread.trans hr) hv',
      h.generator]
    exact ⟨rfl, hback⟩
  · have hv' : b'.generator.domain.equivalent b'.generator.next.1 v = false := by rw [h.generator, hv]
    rw [play_of_not_equivalent index hw hr hv, play_of_not_equivalent index (hwrite.trans hw) (hread.trans hr) hv',
      h.generator]
    exact ⟨rfl, hback.report _⟩

end Bench

/-! ## Runs -/

namespace Engine

variable {stop : Option StopSignal}

theorem loop_indistinct (e : Engine) (hstop : ∀ signal, stop = some signal → o.sees signal)
    (ha : a.Indistinct o R a') (left : Nat) (index : UInt64) {b : Bench σ V} {b' : Bench τ V} (r : RunResult V)
    (h : b.Indistinct o R b') :
    (e.loop stop a' left index ⟨b', r⟩).result = (e.loop stop a left index ⟨b, r⟩).result ∧
      (e.loop stop a left index ⟨b, r⟩).bench.Indistinct o R (e.loop stop a' left index ⟨b', r⟩).bench := by
  induction left generalizing index b b' r with
  | zero => exact ⟨rfl, h⟩
  | succ left ih =>
    -- Both see the same flag, so both stop here or both play on.
    obtain ⟨hround, hbench⟩ := Bench.play_indistinct h ha index
    simp only [loop, h.signals.stopRequested hstop, hround]
    split
    · exact ⟨rfl, h.report _⟩
    · split
      · exact ⟨rfl, hbench.report _⟩
      · exact ih (index + 1) _ hbench

/-- **A run against the one adapter is the same run against the other**, if the observer sees its signal. -/
theorem drive_indistinct (e : Engine) (hstop : ∀ signal, stop = some signal → o.sees signal)
    (ha : a.Indistinct o R a') {b : Bench σ V} {b' : Bench τ V} (h : b.Indistinct o R b') :
    (e.drive stop a' b').1 = (e.drive stop a b).1 ∧ (e.drive stop a b).2.Indistinct o R (e.drive stop a' b').2 := by
  simp only [drive, h.signals.stopRequested hstop, h.generator]
  cases e.config.validate with
  | error err => exact ⟨rfl, h⟩
  | ok _ =>
    dsimp only
    split
    · exact ⟨rfl, h⟩
    · obtain ⟨hresult, hbench⟩ := e.loop_indistinct hstop ha e.config.rounds.toNat 0 (e.emptyResult b.generator)
        (h.report (.started e.config.rounds b.generator.domain.label b.generator.seed))
      rw [hresult]
      exact ⟨rfl, hbench.report _⟩

/-- Two endings that an observer cannot tell apart. -/
structure Ending.Indistinct (o : Observer) (R : σ → τ → Prop) (x : Ending σ V) (y : Ending τ V) : Prop where
  result : y.result = x.result
  adapter : R x.adapter y.adapter
  signals : x.signals.Indistinct o y.signals
  log : o.reads → y.log = x.log

theorem run_indistinct (e : Engine) (domain : Domain V) (seed : Seed)
    (hstop : ∀ signal, stop = some signal → o.sees signal) (ha : a.Indistinct o R a') {s : σ} {t : τ} (hstate : R s t)
    {signals signals' : Signals} (hsignals : signals.Indistinct o signals') :
    (e.run domain seed stop a s signals).Indistinct o R (e.run domain seed stop a' t signals') := by
  simp only [run]
  cases Generator.new domain seed with
  | error err => exact ⟨rfl, hstate, hsignals, fun _ => rfl⟩
  | ok generator =>
    have hstart : Bench.Indistinct o R (⟨generator, s, signals, #[]⟩ : Bench σ V) ⟨generator, t, signals', #[]⟩ :=
      ⟨rfl, hstate, hsignals, fun _ => rfl⟩
    obtain ⟨hresult, hbench⟩ := e.drive_indistinct hstop ha hstart
    exact ⟨hresult, hbench.adapter, hbench.signals, hbench.log⟩

end Engine

end Readback
