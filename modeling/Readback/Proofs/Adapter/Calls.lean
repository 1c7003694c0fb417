import Readback.Proofs.Run.Accounting
import Readback.Proofs.Run.Simulation

/-!
# The calls of a run

Which calls a run makes of its adapter, in which order, and what it makes of the answers. The calls are seen by an
adapter that keeps a record of them (`Adapter.traced`); the record changes nothing in a run (`simulates_traced`).

- a round makes one write, and a read unless the write failed; the answers alone decide the round (`play_exchange`);
- the record grows by the calls of each round and by nothing else (`play_traced`, `after_traced`);
- a run passes exactly if every write succeeded and every read returned the value just written (`echoing_flatMap`);
- an injector counts a write for each round, and a read for each round whose write did not fail (`after_counters`);
- every run that is not refused keeps to this (`drive_disciplined`).
-/

namespace Readback

variable {σ V : Type}

/-! ## Recorded calls -/

/-- A call and its answer. -/
inductive Call (V : Type) where
  | write (value : V) (answer : Except AdapterError Unit)
  | read (answer : Except AdapterError V)

/-- The adapter with a record of the calls made of it. -/
def Adapter.traced (inner : Adapter σ V) : Adapter (List (Call V) × σ) V where
  write v s := (inner.write v s.2).within (s.1 ++ [.write v (inner.write v s.2).answer], ·)
  read s := (inner.read s.2).within (s.1 ++ [.read (inner.read s.2).answer], ·)

theorem AnswersAlike.refl {α : Type} {cause : String → String → Prop} (hrefl : ∀ c, cause c c) :
    ∀ x : Except AdapterError α, AnswersAlike cause x x
  | .ok a => .ok a
  | .error e => .error (hrefl e.cause)

/-- The record does not show in the replies. -/
theorem Adapter.simulates_traced (adapter : Adapter σ V) :
    adapter.Simulates sameCause (fun s t => t.2 = s) adapter.traced where
  write {s t} v h := by
    subst h
    exact ⟨.refl (fun _ => rfl) _, rfl, rfl⟩
  read {s t} h := by
    subst h
    exact ⟨.refl (fun _ => rfl) _, rfl, rfl⟩

/-- The calls of a round that writes `v`, and what the round observes and how it ends after them. -/
inductive Exchange (equivalent : V → V → Bool) (v : V) : List (Call V) → Option V → Outcome → Prop
  | writeFailed (cause : String) :
      Exchange equivalent v [.write v (.error ⟨cause⟩)] none (.adapterError .write cause)
  | readFailed (cause : String) :
      Exchange equivalent v [.write v (.ok ()), .read (.error ⟨cause⟩)] none (.adapterError .read cause)
  | passed (o : V) : equivalent v o = true →
      Exchange equivalent v [.write v (.ok ()), .read (.ok o)] (some o) .pass
  | mismatched (o : V) : equivalent v o = false →
      Exchange equivalent v [.write v (.ok ()), .read (.ok o)] (some o) .mismatch

/-- Every write succeeds, and every read returns a value that counts as the one just written; `last` is the value
written before the first of the calls. -/
def Echoing (equivalent : V → V → Bool) : Option V → List (Call V) → Prop
  | _, [] => True
  | _, .write v answer :: calls => answer = .ok () ∧ Echoing equivalent (some v) calls
  | last, .read answer :: calls =>
    (∃ v o, last = some v ∧ answer = .ok o ∧ equivalent v o = true) ∧ Echoing equivalent last calls

variable {equivalent : V → V → Bool}

/-- A round passes exactly if its calls echo. -/
theorem Exchange.echoing_append {v : V} {calls : List (Call V)} {observed : Option V} {outcome : Outcome}
    (h : Exchange equivalent v calls observed outcome) (last : Option V) (rest : List (Call V)) :
    Echoing equivalent last (calls ++ rest) ↔ outcome.isPass = true ∧ Echoing equivalent (some v) rest := by
  cases h with
  | writeFailed cause => simp [Echoing, Outcome.isPass]
  | readFailed cause => simp [Echoing, Outcome.isPass]
  | passed o ho => simp [Echoing, Outcome.isPass, ho]
  | mismatched o ho => simp [Echoing, Outcome.isPass, ho]

/-- The calls of several rounds echo exactly if every round passes. -/
theorem echoing_flatMap {value : Nat → V} {exchange : Nat → List (Call V)} {round : Nat → Round V} :
    ∀ (places : List Nat) (last : Option V),
      (∀ i ∈ places, Exchange equivalent (value i) (exchange i) (round i).observed (round i).outcome) →
      (Echoing equivalent last (places.flatMap exchange) ↔ ∀ i ∈ places, (round i).isPass = true)
  | [], last, _ => by simp [Echoing]
  | i :: places, last, h => by
    have hi := h i List.mem_cons_self
    have hrest := echoing_flatMap places (some (value i)) fun j hj => h j (List.mem_cons_of_mem i hj)
    rw [List.flatMap_cons, hi.echoing_append, hrest, List.forall_mem_cons]
    rfl

/-! ## The calls of a round -/

namespace Bench

variable (adapter : Adapter σ V)

/-- The calls of the next round. -/
def calls (b : Bench σ V) : List (Call V) :=
  match (b.writeReply adapter).answer with
  | .error e => [.write b.generator.next.1 (.error e)]
  | .ok () => [.write b.generator.next.1 (.ok ()), .read (b.readReply adapter).answer]

theorem calls_of_write_error {b : Bench σ V} {e : AdapterError} (hw : (b.writeReply adapter).answer = .error e) :
    b.calls adapter = [.write b.generator.next.1 (.error e)] := by
  rw [calls, hw]

theorem calls_of_write_ok {b : Bench σ V} (hw : (b.writeReply adapter).answer = .ok ()) :
    b.calls adapter = [.write b.generator.next.1 (.ok ()), .read (b.readReply adapter).answer] := by
  rw [calls, hw]

/-- **The answers to its calls decide a round.** -/
theorem play_exchange (b : Bench σ V) (index : UInt64) :
    Exchange b.generator.domain.equivalent b.generator.next.1 (b.calls adapter) (b.play adapter index).1.observed
      (b.play adapter index).1.outcome := by
  rcases b.exchange_cases adapter with ⟨e, hw⟩ | ⟨e, hw, hr⟩ | ⟨o, hw, hr, ho⟩ | ⟨o, hw, hr, ho⟩
  · rw [play_of_write_error index hw, calls_of_write_error adapter hw]
    exact .writeFailed e.cause
  · rw [play_of_read_error index hw hr, calls_of_write_ok adapter hw, hr]
    exact .readFailed e.cause
  · rw [play_of_equivalent index hw hr ho, calls_of_write_ok adapter hw, hr]
    exact .passed o ho
  · rw [play_of_not_equivalent index hw hr ho, calls_of_write_ok adapter hw, hr]
    exact .mismatched o ho

variable {adapter}

theorem trace_written (b : Bench (List (Call V) × σ) V) (index : UInt64) :
    (b.written adapter.traced index).adapter.1 =
      b.adapter.1 ++ [.write b.generator.next.1 (b.writeReply adapter.traced).answer] := rfl

theorem trace_readBack (b : Bench (List (Call V) × σ) V) (index : UInt64) :
    (b.readBack adapter.traced index).adapter.1 =
      (b.written adapter.traced index).adapter.1 ++ [.read (b.readReply adapter.traced).answer] := rfl

/-- **The record grows by the calls of the round.** -/
theorem play_traced (b : Bench (List (Call V) × σ) V) (index : UInt64) :
    (b.play adapter.traced index).2.adapter.1 = b.adapter.1 ++ b.calls adapter.traced := by
  have hread (hw : (b.writeReply adapter.traced).answer = .ok ()) :
      (b.readBack adapter.traced index).adapter.1 = b.adapter.1 ++ b.calls adapter.traced := by
    rw [trace_readBack, trace_written, calls_of_write_ok _ hw, hw, List.append_assoc]
    rfl
  rcases b.exchange_cases adapter.traced with ⟨e, hw⟩ | ⟨e, hw, hr⟩ | ⟨o, hw, hr, ho⟩ | ⟨o, hw, hr, ho⟩
  · rw [play_of_write_error index hw, calls_of_write_error _ hw, ← hw]
    exact trace_written b index
  · rw [play_of_read_error index hw hr]
    exact hread hw
  · rw [play_of_equivalent index hw hr ho]
    exact hread hw
  · rw [play_of_not_equivalent index hw hr ho]
    exact hread hw

/-- **The record when `n` rounds are played**: the calls of each of them, in order. -/
theorem after_traced (adapter : Adapter σ V) (b : Bench (List (Call V) × σ) V) :
    ∀ n, (b.after adapter.traced n).adapter.1 =
      b.adapter.1 ++ (List.range n).flatMap fun i => (b.after adapter.traced i).calls adapter.traced
  | 0 => (List.append_nil _).symm
  | n + 1 => by
    rw [after, play_traced, after_traced adapter b n, List.range_succ, List.flatMap_append, List.append_assoc]
    simp only [List.flatMap_cons, List.flatMap_nil, List.append_nil]

/-- The calls of the round at a place decide that round. -/
theorem roundAt_exchange (adapter : Adapter σ V) (b : Bench σ V) (i : Nat) :
    Exchange b.generator.domain.equivalent (b.generator.valueAt i) ((b.after adapter i).calls adapter)
      (b.roundAt adapter i).observed (b.roundAt adapter i).outcome := by
  have h := play_exchange adapter (b.after adapter i) (.ofNat i)
  rw [after_domain, after_generator] at h
  exact h

end Bench

/-! ## The counters of an injector -/

/-- Whether a round broke off at a stage. -/
def Round.brokeAt (round : Round V) (stage : Stage) : Bool := round.outcome.adapterError?.any (·.1 = stage)

/-- Every write is counted, also one that goes wrong. -/
theorem Injector.writes_write (i : Injector) (inner : σ) (forward : Unit → Reply σ Unit) :
    (i.write inner forward).state.1 = { i with writes := i.writes + 1 } := by
  unfold Injector.write
  dsimp only
  split
  · rfl
  · split <;> rfl

/-- Every read is counted, also one that goes wrong. -/
theorem Injector.reads_read {α : Type} (i : Injector) (inner : σ) (forward : Unit → Reply σ α) :
    (i.read inner forward).state.1 = { i with reads := i.reads + 1 } := by
  unfold Injector.read
  dsimp only
  split <;> rfl

namespace Bench

variable (adapter : Adapter σ V) (b : Bench (Injector × σ) V)

theorem injector_written (index : UInt64) :
    (b.written adapter.faulty index).adapter.1 = { b.adapter.1 with writes := b.adapter.1.writes + 1 } :=
  b.adapter.1.writes_write b.adapter.2 fun _ => adapter.write b.generator.next.1 b.adapter.2

theorem injector_readBack (index : UInt64) :
    (b.readBack adapter.faulty index).adapter.1 =
      { b.adapter.1 with writes := b.adapter.1.writes + 1, reads := b.adapter.1.reads + 1 } := by
  have h : (b.readBack adapter.faulty index).adapter.1 =
      { (b.written adapter.faulty index).adapter.1 with
        reads := (b.written adapter.faulty index).adapter.1.reads + 1 } :=
    (b.written adapter.faulty index).adapter.1.reads_read (b.written adapter.faulty index).adapter.2
      fun _ => adapter.read (b.written adapter.faulty index).adapter.2
  rw [h, injector_written]

/-- A round is one write, and one read unless the write failed. -/
theorem play_counters (index : UInt64) :
    (b.play adapter.faulty index).2.adapter.1.writes = b.adapter.1.writes + 1 ∧
      (b.play adapter.faulty index).2.adapter.1.reads +
        .ofNat (if (b.play adapter.faulty index).1.brokeAt .write then 1 else 0) = b.adapter.1.reads + 1 := by
  have hwritten := injector_written adapter b index
  have hread := injector_readBack adapter b index
  rcases b.exchange_cases adapter.faulty with ⟨e, hw⟩ | ⟨e, hw, hr⟩ | ⟨o, hw, hr, ho⟩ | ⟨o, hw, hr, ho⟩
  · rw [play_of_write_error index hw]
    simp [report, hwritten, Round.brokeAt, Round.adapterError, Outcome.adapterError?]
  · rw [play_of_read_error index hw hr]
    simp [report, hread, Round.brokeAt, Round.adapterError, Outcome.adapterError?]
  · rw [play_of_equivalent index hw hr ho]
    simp [hread, Round.brokeAt, Round.pass, Outcome.adapterError?]
  · rw [play_of_not_equivalent index hw hr ho]
    simp [report, hread, Round.brokeAt, Round.mismatch, Outcome.adapterError?]

/-- **The counters when `n` rounds are played.** -/
theorem after_counters :
    ∀ n, (b.after adapter.faulty n).adapter.1.writes = b.adapter.1.writes + .ofNat n ∧
      (b.after adapter.faulty n).adapter.1.reads +
        .ofNat ((b.firstRounds adapter.faulty n).countP (·.brokeAt .write)) = b.adapter.1.reads + .ofNat n
  | 0 => ⟨(UInt64.add_zero _).symm, rfl⟩
  | n + 1 => by
    obtain ⟨hwrites, hreads⟩ := after_counters n
    obtain ⟨hwrite, hread⟩ := play_counters adapter (b.after adapter.faulty n) (.ofNat n)
    have hsucc : UInt64.ofNat (n + 1) = .ofNat n + 1 := UInt64.ofNat_add n 1
    rw [firstRounds_succ, List.countP_append, List.countP_singleton, roundAt, after, hsucc, UInt64.ofNat_add]
    constructor <;> grind

/-- From zero on, and for as many rounds as a run can have, the counter of the reads is a number. -/
theorem reads_of_fresh (hfresh : b.adapter.1.reads = 0) {n : Nat} (hn : n < UInt64.size) :
    (b.after adapter.faulty n).adapter.1.reads.toNat +
      (b.firstRounds adapter.faulty n).countP (·.brokeAt .write) = n := by
  have hle : (b.firstRounds adapter.faulty n).countP (·.brokeAt .write) ≤ n :=
    Nat.le_trans List.countP_le_length (Nat.le_of_eq (b.length_firstRounds adapter.faulty n))
  have hwords := congrArg UInt64.toNat (after_counters adapter b n).2
  rw [hfresh, UInt64.zero_add, UInt64.toNat_add, UInt64.toNat_ofNat_of_lt' hn,
    UInt64.toNat_ofNat_of_lt' (Nat.lt_of_le_of_lt hle hn)] at hwords
  have hlt := (b.after adapter.faulty n).adapter.1.reads.toNat_lt
  -- A sum that went around would exceed the number of rounds by `2 ^ 64`.
  omega

end Bench

/-! ## Disciplined runs -/

namespace Engine

/-- A run with result `r`, whose values come from the generator `g`, made these calls and no others. -/
structure Disciplined (g : Generator V) (r : RunResult V) (calls : List (Call V)) : Prop where
  /-- The calls are those of the completed rounds, one round after the other; each round writes the value at its place,
  and is decided by the answers to its calls. -/
  exchanges : ∃ (round : Nat → Round V) (exchange : Nat → List (Call V)),
    r.rounds.toList = ((List.range r.roundsCompleted.toNat).map round).filter (RunResult.keeps r.retention) ∧
    calls = (List.range r.roundsCompleted.toNat).flatMap exchange ∧
    ∀ i < r.roundsCompleted.toNat, (round i).index = .ofNat i ∧ (round i).input = g.valueAt i ∧
      Exchange g.domain.equivalent (g.valueAt i) (exchange i) (round i).observed (round i).outcome
  /-- The verdict is sound. -/
  verdict_iff : r.verdict = .pass ↔ Echoing g.domain.equivalent none calls

variable {e : Engine} {stop : Option StopSignal} {adapter : Adapter σ V}

/-- What a recording adapter has recorded when a run is over. -/
theorem CutAt.disciplined {b : Bench (List (Call V) × σ) V} {n : Nat}
    (h : e.CutAt stop adapter.traced b e.config.rounds.toNat n) (hfresh : b.adapter.1 = []) :
    Disciplined b.generator (e.resultAt adapter.traced b n) (b.after adapter.traced n).adapter.1 := by
  have hacc := accounts_resultAt e adapter.traced b h.lt_size
  have hcount : (e.resultAt adapter.traced b n).roundsCompleted.toNat = n := by
    rw [hacc.completed, Bench.length_firstRounds]
  have htrace := Bench.after_traced adapter b n
  rw [hfresh, List.nil_append] at htrace
  constructor
  · refine ⟨b.roundAt adapter.traced, fun i => (b.after adapter.traced i).calls adapter.traced, ?_, ?_, ?_⟩
    · rw [hcount]; exact hacc.kept
    · rw [hcount]; exact htrace
    · intro i _
      exact ⟨b.roundAt_index _ i, b.roundAt_input _ i, b.roundAt_exchange _ i⟩
  · have hecho := echoing_flatMap (List.range n) none fun i _ => b.roundAt_exchange adapter.traced i
    rw [hacc.verdict_eq_pass_iff, htrace, hecho, Bench.firstRounds, List.forall_mem_map]

/-- Every round that broke off is kept. -/
theorem countP_brokeAt_resultAt (b : Bench σ V) (n : Nat) (stage : Stage) :
    (e.resultAt adapter b n).rounds.toList.countP (·.brokeAt stage) =
      (b.firstRounds adapter n).countP (·.brokeAt stage) := by
  rw [rounds_resultAt, List.countP_filter]
  refine List.countP_congr fun round _ => ?_
  cases houtcome : round.outcome <;>
    simp [Round.brokeAt, RunResult.keeps, Round.isPass, houtcome, Outcome.adapterError?, Outcome.isPass]

/-- **The discipline of calls.** A run that is not refused makes, of any adapter, the calls of its completed rounds and
no others: an adapter that keeps a record gives the same result and ends in the same state, with these calls on record.
And an injector that has not been called before has counted a write for each completed round, and a read for each of
them whose write did not fail. -/
theorem drive_disciplined (e : Engine) (stop : Option StopSignal) (adapter : Adapter σ V) (g : Generator V) (state : σ)
    (signals : Signals) (log : Array (Event V)) :
    (∀ (r : RunResult V) (b' : Bench σ V), e.drive stop adapter ⟨g, state, signals, log⟩ = (.ok r, b') →
      ∃ calls c', e.drive stop adapter.traced ⟨g, ([], state), signals, log⟩ = (.ok r, c') ∧
        c'.adapter = (calls, b'.adapter) ∧ Disciplined g r calls) ∧
      ∀ (faults : List Fault) (r : RunResult V) (b' : Bench (Injector × σ) V),
        e.drive stop adapter.faulty ⟨g, ({ faults }, state), signals, log⟩ = (.ok r, b') →
          b'.adapter.1.writes = r.roundsCompleted ∧
            b'.adapter.1.reads.toNat + r.rounds.toList.countP (·.brokeAt .write) = r.roundsCompleted.toNat := by
  constructor
  · intro r b' h
    have hstart : Bench.Agree (fun s t => t.2 = s) (⟨g, state, signals, log⟩ : Bench σ V)
        (⟨g, ([], state), signals, log⟩ : Bench (List (Call V) × σ) V) := ⟨rfl, rfl, rfl⟩
    have hagree := e.drive_agree stop adapter.simulates_traced hstart
    rw [h] at hagree
    obtain ⟨n, c', hcut, hr, hdrive, hquiet⟩ := drive_ok_cases hagree.1.eq.symm
    rw [hdrive] at hagree
    have hstate := hagree.2.adapter
    have hadapter := (Bench.quiet_eq_iff.mp hquiet).2.1
    refine ⟨c'.adapter.1, c', hdrive, Prod.ext rfl hstate, ?_⟩
    rw [hadapter, hr]
    exact hcut.disciplined rfl
  · intro faults r b' h
    obtain ⟨n, c', hcut, rfl, hdrive, hquiet⟩ := drive_ok_cases (congrArg Prod.fst h)
    obtain rfl : c' = b' := (Prod.mk.inj (hdrive.symm.trans h)).2
    have hwrites := (Bench.after_counters adapter ⟨g, ({ faults }, state), signals, log⟩ n).1
    have hadapter := (Bench.quiet_eq_iff.mp hquiet).2.1
    rw [hadapter, countP_brokeAt_resultAt, roundsCompleted_resultAt, UInt64.toNat_ofNat_of_lt' hcut.lt_size]
    refine ⟨hwrites.trans (UInt64.zero_add _), Bench.reads_of_fresh adapter _ rfl hcut.lt_size⟩

/-- Three rounds on the bench of mixed outcomes: no read follows the write that failed, and the injector has counted
three writes and two reads. -/
theorem drive_disciplined_mixed :
    ∃ r b' calls c', (Engine.mk { rounds := 3 }).drive none (memoryCell Int64).faulty mixedBench = (.ok r, b') ∧
      (Engine.mk { rounds := 3 }).drive none (memoryCell Int64).faulty.traced
        ⟨mixedBench.generator, ([], mixedBench.adapter), .none, #[]⟩ = (.ok r, c') ∧
      c'.adapter = (calls, b'.adapter) ∧ Disciplined mixedBench.generator r calls ∧
      calls = [.write 7 (.ok ()), .read (.ok 3),
        .write 7 (.error ⟨"injected write failure at call " ++ Numeral.natText 1⟩), .write 7 (.ok ()), .read (.ok 7)] ∧
      r.verdict = .fail ∧ b'.adapter.1.writes = 3 ∧ b'.adapter.1.reads = 2 := by
  obtain ⟨r, b', hdrive, hcompleted, hverdict, hbroke⟩ : ∃ r b',
      (Engine.mk { rounds := 3 }).drive none (memoryCell Int64).faulty mixedBench = (.ok r, b') ∧
      r.roundsCompleted = 3 ∧ r.verdict = .fail ∧ r.rounds.toList.countP (·.brokeAt .write) = 1 :=
    ⟨_, _, rfl, rfl, rfl, rfl⟩
  obtain ⟨calls, c', htraced, hadapter, hdisciplined⟩ := (drive_disciplined (Engine.mk { rounds := 3 }) none
    (memoryCell Int64).faulty mixedBench.generator mixedBench.adapter .none #[]).1 r b' hdrive
  obtain ⟨hwrites, hreads⟩ := (drive_disciplined (Engine.mk { rounds := 3 }) none (memoryCell Int64)
    mixedBench.generator (some 3) .none #[]).2 [.dropWrite 0, .failWrite 1] r b' hdrive
  have hcalls : ((Engine.mk { rounds := 3 }).drive none (memoryCell Int64).faulty.traced
      ⟨mixedBench.generator, ([], mixedBench.adapter), .none, #[]⟩).2.adapter.1 =
        [.write 7 (.ok ()), .read (.ok 3), .write 7 (.error ⟨"injected write failure at call " ++ Numeral.natText 1⟩),
          .write 7 (.ok ()), .read (.ok 7)] := rfl
  rw [htraced, hadapter] at hcalls
  rw [hcompleted] at hwrites hreads
  rw [hbroke] at hreads
  exact ⟨r, b', calls, c', hdrive, htraced, hadapter, hdisciplined, hcalls, hverdict, hwrites,
    UInt64.toNat_inj.mp (Nat.succ.inj hreads)⟩

end Engine

end Readback
