import Readback.Proofs.Adapter.FaultyCell
import Readback.Proofs.Run.Accounting
import Readback.Proofs.Run.Simulation
import Readback.Proofs.Target.Transport

/-!
# The reference target is a memory cell

The fault that drops one write is there three times: in the server, in front of the client, and in front of the memory
cell. Over a reliable network a run cannot tell them apart.

- a cell keeps one value and fails only a read, if it holds none (`IsCell`): the memory cell is one, and so is the
  client of a server that drops nothing (`isCell_memoryCell`, `Serves.isCell`);
- a cell behind an injector that drops a write and a server that drops it itself keep in step (`InStep`), call by call,
  so the one answers as the client of the other does (`IsCell.faulty_simulates`);
- **`run_refines_cell`**: the runs against all three have the same results, but for the cause of a read that finds
  nothing stored.
-/

namespace Readback

namespace HttpTarget

open Http (Network Url)

variable {σ τ ρ : Type} {net : Network σ} {store : σ → Server.Store} {base path : String} {url : Url}

/-! ## Cells -/

/-- An adapter that keeps one value: `Holds x c` says that in the state `x` it holds `c`. Its calls raise no signals,
and only a read fails, if nothing is held. -/
structure IsCell (a : Adapter ρ Int64) (Holds : ρ → Option Int64 → Prop) (missing : String) : Prop where
  write {x : ρ} {c : Option Int64} (v : Int64) : Holds x c →
    (a.write v x).answer = .ok () ∧ Holds (a.write v x).state (some v) ∧ (a.write v x).raises = []
  read {x : ρ} {c : Option Int64} : Holds x c →
    (a.read x).answer = readAnswer missing c ∧ Holds (a.read x).state c ∧ (a.read x).raises = []

/-- The memory cell is a cell. -/
theorem isCell_memoryCell : IsCell (memoryCell Int64) (· = ·) "no value written" where
  write v _ := ⟨rfl, rfl, rfl⟩
  read {x c} hx := by
    subst hx
    cases x <;> exact ⟨rfl, rfl, rfl⟩

/-- **The client of a server that drops nothing is a cell.** -/
theorem Serves.isCell (h : Serves net store base url) :
    IsCell (adapter net base) (fun s c => (store s).value = c ∧ (store s).dropWrite = none) (notFound url) where
  write {s c} v hs := by
    obtain ⟨hanswer, hstore⟩ := h.write_spec v s
    refine ⟨hanswer, ?_, rfl⟩
    rw [hstore, Server.Store.value_put, Server.Store.dropWrite_put, hs.2]
    exact ⟨rfl, rfl⟩
  read {s c} hs := by
    obtain ⟨hanswer, hstore⟩ := h.read_spec s
    obtain ⟨rfl, hdrop⟩ := hs
    rw [hstore]
    exact ⟨hanswer, ⟨rfl, hdrop⟩, rfl⟩

theorem answersAlike_readAnswer {cause : CauseRule} {missing missing' : String} (hcause : cause .read missing missing')
    (c : Option Int64) : AnswersAlike (cause .read) (readAnswer missing c) (readAnswer missing' c) := by
  cases c with
  | some v => exact .ok v
  | none => exact .error hcause

/-! ## The dropped write -/

/-- The faults of a target that drops at most one write. -/
def dropping (n : Option UInt64) : List Fault := n.toList.map .dropWrite

theorem mem_dropping {n : Option UInt64} {fault : Fault} :
    fault ∈ dropping n ↔ ∃ k, n = some k ∧ fault = .dropWrite k := by
  simp only [dropping, List.mem_map, Option.mem_toList, eq_comm (a := fault)]

section Injector

variable {a : Adapter ρ Int64} {n : Option UInt64} {writes reads : UInt64}

theorem write_of_dropped (v : Int64) (x : ρ) (h : n = some writes) :
    a.faulty.write v (⟨dropping n, writes, reads⟩, x) = .ok () (⟨dropping n, writes + 1, reads⟩, x) := by
  have hdrop : Fault.dropWrite writes ∈ dropping n := mem_dropping.mpr ⟨writes, h, rfl⟩
  have hfail : Fault.failWrite writes ∉ dropping n := by simp [mem_dropping]
  simp [Adapter.faulty, Injector.write, hdrop, hfail]

theorem write_of_forwarded (v : Int64) (x : ρ) (h : n ≠ some writes) :
    a.faulty.write v (⟨dropping n, writes, reads⟩, x) = (a.write v x).within (⟨dropping n, writes + 1, reads⟩, ·) := by
  have hdrop : Fault.dropWrite writes ∉ dropping n := by simp [mem_dropping, h]
  have hfail : Fault.failWrite writes ∉ dropping n := by simp [mem_dropping]
  simp [Adapter.faulty, Injector.write, hdrop, hfail]

theorem read_forwarded (x : ρ) :
    a.faulty.read (⟨dropping n, writes, reads⟩, x) = (a.read x).within (⟨dropping n, writes, reads + 1⟩, ·) := by
  have hfail : Fault.failRead reads ∉ dropping n := by simp [mem_dropping]
  simp [Adapter.faulty, Injector.read, hfail]

end Injector

/-- A cell behind an injector, and a server that drops the write itself: both count the same writes and hold the same
value. -/
structure InStep (Holds : ρ → Option Int64 → Prop) (store : σ → Server.Store) (n : Option UInt64) (x : Injector × ρ)
    (s : σ) : Prop where
  faults : x.1.faults = dropping n
  drops : (store s).dropWrite = n
  writes : (store s).writes = x.1.writes
  holds : Holds x.2 (store s).value

section InStep

variable {Holds : ρ → Option Int64 → Prop} {n : Option UInt64} {writes reads : UInt64} {x x' : ρ} {s s' : σ} {v : Int64}

/-- A write that is dropped here and there. -/
theorem InStep.dropped (h : InStep Holds store n (⟨dropping n, writes, reads⟩, x) s) (hn : n = some writes)
    (hs : store s' = (store s).put v) : InStep Holds store n (⟨dropping n, writes + 1, reads⟩, x) s' where
  faults := rfl
  drops := by simp [hs, h.drops]
  writes := by simp [hs, h.writes]
  holds := by
    rw [hs, Server.Store.value_put, h.drops, h.writes, if_pos hn]
    exact h.holds

/-- A write that is stored here and there. -/
theorem InStep.stored (h : InStep Holds store n (⟨dropping n, writes, reads⟩, x) s) (hn : n ≠ some writes)
    (hx : Holds x' (some v)) (hs : store s' = (store s).put v) :
    InStep Holds store n (⟨dropping n, writes + 1, reads⟩, x') s' where
  faults := rfl
  drops := by simp [hs, h.drops]
  writes := by simp [hs, h.writes]
  holds := by
    rw [hs, Server.Store.value_put, h.drops, h.writes, if_neg hn]
    exact hx

/-- A read leaves both as they are. -/
theorem InStep.read (h : InStep Holds store n (⟨dropping n, writes, reads⟩, x) s) (hx : Holds x' (store s).value)
    (hs : store s' = store s) : InStep Holds store n (⟨dropping n, writes, reads + 1⟩, x') s' where
  faults := rfl
  drops := by rw [hs, h.drops]
  writes := by rw [hs, h.writes]
  holds := by
    rw [hs]
    exact hx

end InStep

/-- **A cell behind an injector is the client of a server that drops the write itself.** -/
theorem IsCell.faulty_simulates {a : Adapter ρ Int64} {Holds : ρ → Option Int64 → Prop} {missing : String}
    (cause : CauseRule) (ha : IsCell a Holds missing) (h : Serves net store base url)
    (hcause : cause .read missing (notFound url)) (n : Option UInt64) :
    a.faulty.Simulates cause (InStep Holds store n) (adapter net base) where
  write {x s} v hx := by
    obtain ⟨⟨faults, writes, reads⟩, x⟩ := x
    obtain rfl : faults = dropping n := hx.faults
    obtain ⟨hanswer, hstore⟩ := h.write_spec v s
    by_cases hn : n = some writes
    · rw [write_of_dropped v x hn]
      refine ⟨?_, hx.dropped hn hstore, rfl⟩
      rw [hanswer]
      exact .ok ()
    · obtain ⟨hinner, hholds, hraises⟩ := ha.write v hx.holds
      rw [write_of_forwarded v x hn]
      refine ⟨?_, hx.stored hn hholds hstore, hraises.symm⟩
      rw [hanswer]
      simp only [Reply.within, hinner]
      exact .ok ()
  read {x s} hx := by
    obtain ⟨⟨faults, writes, reads⟩, x⟩ := x
    obtain rfl : faults = dropping n := hx.faults
    obtain ⟨hanswer, hstore⟩ := h.read_spec s
    obtain ⟨hinner, hholds, hraises⟩ := ha.read hx.holds
    rw [read_forwarded x]
    refine ⟨?_, hx.read hholds hstore, hraises.symm⟩
    rw [hanswer]
    simp only [Reply.within, hinner]
    exact answersAlike_readAnswer hcause _

/-! ## Runs -/

/-- A cell that drops at most one write fails only a read, and only while nothing is stored: each write so far was the
one to drop. -/
theorem nothing_stored_of_error {n : Option UInt64} {value : Nat → Int64} {i : Nat} {observed : Option Int64}
    {outcome : Outcome} (h : FaultyCell.Shown (dropping n) none value i observed outcome) {stage : Stage}
    {cause : String} (houtcome : outcome = .adapterError stage cause) :
    stage = .read ∧ cause = "no value written" ∧ ∀ j ≤ i, n = some (.ofNat j) := by
  have hcompared (v w : Int64) : FaultyCell.compared v w ≠ .adapterError stage cause := by
    rw [FaultyCell.compared]
    split <;> simp
  cases h with
  | writeFails hw => simp [mem_dropping] at hw
  | readFails _ hr => simp [mem_dropping] at hr
  | stored _ _ _ => exact absurd houtcome (hcompared _ _)
  | preset _ _ _ _ => exact absurd houtcome (hcompared _ _)
  | empty _ _ hnone _ =>
    cases houtcome
    refine ⟨rfl, rfl, fun j hj => ?_⟩
    have hnot := hnone j hj
    simpa [FaultyCell.Stored, mem_dropping] using hnot

/-- The rounds that fail in a run against such a cell. -/
theorem nothing_stored_of_mem_rounds {e : Engine} {stop : Option StopSignal} {bounds : Bounds} {seed : Seed}
    {n : Option UInt64} {signals : Signals} {result : RunResult Int64}
    (h : (e.run bounds.domain seed stop (memoryCell Int64).faulty ({ faults := dropping n }, none) signals).result =
      .ok result) {round : Round Int64} (hround : round ∈ result.rounds.toList) {stage : Stage} {cause : String}
    (houtcome : round.outcome = .adapterError stage cause) :
    stage = .read ∧ cause = "no value written" ∧ ∀ j ≤ round.index.toNat, n = some (.ofNat j) := by
  obtain ⟨g, hnew, hdrive⟩ := Engine.run_ok h
  have hdomain (v w : Int64) : g.domain.equivalent v w = (v == w) := by
    rw [Generator.domain_of_new hnew]
    rfl
  obtain ⟨m, -, hcut, rfl, -⟩ := Engine.drive_ok_cases hdrive
  obtain ⟨i, hi, rfl⟩ := Engine.mem_rounds_resultAt hround
  rw [Bench.roundAt_index, UInt64.toNat_ofNat_of_lt' (Nat.lt_trans hi hcut.lt_size)]
  exact nothing_stored_of_error (FaultyCell.shown_roundAt rfl hdomain i) houtcome

/-- The only cause in a run against a cell that drops at most one write is that a read finds nothing stored. The memory
cell and the client say so in words of their own. -/
def unwritten (url : Url) : CauseRule := fun stage c c' =>
  stage = .read ∧ c = "no value written" ∧ c' = notFound url

section Runs

variable {n : Option UInt64} {s : σ} (e : Engine) (bounds : Bounds) (seed : Seed) (stop : Option StopSignal)
  (signals : Signals)

/-- A run against a server that drops a write is one against the memory cell behind an injector. -/
theorem Serves.run_agree (h : Serves net store base url) (hs : store s = { dropWrite := n }) :
    Engine.AnswersAgree (unwritten url)
      (e.run bounds.domain seed stop (memoryCell Int64).faulty ({ faults := dropping n }, none) signals).result
      (e.run bounds.domain seed stop (adapter net base) s signals).result := by
  have hstep : InStep (· = ·) store n ({ faults := dropping n }, none) s := by
    constructor <;> simp only [hs]
  exact e.run_agree bounds.domain seed stop
    (isCell_memoryCell.faulty_simulates (unwritten url) h ⟨rfl, rfl, rfl⟩ n) hstep signals

/-- A run against a server that drops a write is one through a client behind an injector, against a server at the same
address that drops nothing. -/
theorem Serves.run_eq {net' : Network τ} {store' : τ → Server.Store} {base' : String} {s' : τ}
    (h : Serves net store base url) (h' : Serves net' store' base' url) (hs : store s = { dropWrite := n })
    (hs' : store' s' = {}) :
    (e.run bounds.domain seed stop (adapter net' base').faulty ({ faults := dropping n }, s') signals).result =
      (e.run bounds.domain seed stop (adapter net base) s signals).result := by
  have hstep : InStep (fun t c => (store' t).value = c ∧ (store' t).dropWrite = none) store n
      ({ faults := dropping n }, s') s := by
    constructor <;> simp [hs, hs']
  exact (e.run_agree bounds.domain seed stop (h'.isCell.faulty_simulates sameCause h rfl n) hstep signals).eq

end Runs

/-- Where a target can be reached at all, the reference target can. -/
theorem Reaches.reference (h : Reaches net store base path url) : Reaches referenceNetwork id base path url :=
  ⟨h.parses, h.fits, h.asks, fun _ _ => rfl, fun _ _ => rfl⟩

theorem Serves.reference (h : Serves net store base url) : Serves referenceNetwork id base url :=
  ⟨h.value.reference, h.health.imp fun _ hhealth => hhealth.reference⟩

/-- **The three targets cannot be told apart.** Over reliable networks, a run through the client against a server that
drops write `n`, one through a client behind an injector of that fault against a server that drops nothing, and one
against the memory cell behind such an injector end alike: in the same refusal, or in results that differ at most in the
causes of reads made before anything was stored. At the same address the first two results are equal. -/
theorem run_refines_cell {net' : Network τ} {store' : τ → Server.Store} {base' : String} {url' : Url}
    (h : Serves net store base url) (h' : Serves net' store' base' url') (n : Option UInt64) (s : σ) (s' : τ)
    (hs : store s = { dropWrite := n }) (hs' : store' s' = {}) (e : Engine) (bounds : Bounds) (seed : Seed)
    (stop : Option StopSignal) (signals : Signals) :
    (connect net base s).1 = .ok () ∧ (connect net' base' s').1 = .ok () ∧
    ∃ onServer onClient inMemory : Except SetupError (RunResult Int64),
      (e.run bounds.domain seed stop (adapter net base) (connect net base s).2 signals).result = onServer ∧
      (e.run bounds.domain seed stop (adapter net' base').faulty ({ faults := dropping n }, (connect net' base' s').2)
        signals).result = onClient ∧
      (e.run bounds.domain seed stop (memoryCell Int64).faulty ({ faults := dropping n }, none) signals).result =
        inMemory ∧
      Engine.AnswersAgree (unwritten url) inMemory onServer ∧ Engine.AnswersAgree (unwritten url') inMemory onClient ∧
      (url = url' → onClient = onServer) ∧
      onServer.map RunResult.verdict = inMemory.map RunResult.verdict ∧
      onClient.map RunResult.verdict = inMemory.map RunResult.verdict ∧
      ∀ result, inMemory = .ok result → ∀ round ∈ result.rounds.toList, ∀ stage cause,
        round.outcome = .adapterError stage cause →
          stage = .read ∧ cause = "no value written" ∧ ∀ j ≤ round.index.toNat, n = some (.ofNat j) := by
  obtain ⟨hconnect, hstore⟩ := h.connect s
  obtain ⟨hconnect', hstore'⟩ := h'.connect s'
  rw [hs] at hstore
  rw [hs'] at hstore'
  have hagree := h.run_agree e bounds seed stop signals hstore
  -- The client behind the injector goes by way of the reference target at its own address.
  have hagree' := h'.reference.run_agree e bounds seed stop signals (n := n) rfl
  rw [← h'.reference.run_eq e bounds seed stop signals h' rfl hstore'] at hagree'
  refine ⟨hconnect, hconnect', _, _, _, rfl, rfl, rfl, hagree, hagree', fun heq => ?_, hagree.verdict, hagree'.verdict,
    fun result hresult round hround stage cause houtcome => nothing_stored_of_mem_rounds hresult hround houtcome⟩
  subst heq
  exact h.run_eq e bounds seed stop signals h' hstore hstore'

/-- All integers. -/
def allIntegers : Bounds := ⟨Int64.minValue, Int64.maxValue⟩

/-- Two rounds with the first write dropped, by the server or in front of the client: the first read finds nothing
stored, and the second round passes. -/
theorem run_refines_cell_first_dropped :
    ∃ result,
      ((Engine.mk { rounds := 2 }).run allIntegers.domain ⟨42⟩ none (adapter referenceNetwork localBase)
        (connect referenceNetwork localBase { dropWrite := some 0 }).2 .none).result = .ok result ∧
      ((Engine.mk { rounds := 2 }).run allIntegers.domain ⟨42⟩ none (adapter referenceNetwork localBase).faulty
        ({ faults := dropping (some 0) }, (connect referenceNetwork localBase {}).2) .none).result = .ok result ∧
      result.tally = ⟨1, 0, 1⟩ := by
  obtain ⟨-, -, _, _, _, hserver, hclient, hmemory, hagree, -, hsame, -⟩ :=
    run_refines_cell serves_reference serves_reference (some 0) { dropWrite := some 0 } {} rfl rfl
      (Engine.mk { rounds := 2 }) allIntegers ⟨42⟩ none .none
  obtain ⟨cell, hcell, htally⟩ : ∃ cell, ((Engine.mk { rounds := 2 }).run allIntegers.domain ⟨42⟩ none
      (memoryCell Int64).faulty ({ faults := dropping (some 0) }, none) .none).result = .ok cell ∧
      cell.tally = ⟨1, 0, 1⟩ := ⟨_, rfl, by decide +kernel⟩
  rw [← hmemory, hcell] at hagree
  rw [hsame rfl] at hclient
  cases hagree with
  | ran h => exact ⟨_, hserver, hclient, h.tally.trans htally⟩

end HttpTarget

end Readback
