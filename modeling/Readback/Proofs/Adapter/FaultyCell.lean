import Mathlib.Order.Bounds.Defs
import Readback.Adapter.Faulty
import Readback.Domain.IntRange
import Readback.Proofs.Run.Length

/-!
# A memory cell with faults

What every round of a run against a faulty memory cell shows, from the faults alone. Faults count calls: a write that
fails skips its read, so later reads have lower numbers than their rounds; a write that is dropped leaves the cell with
the value of an earlier round. The calls of a round are counted in words; in a run the word of a number is the number.

- `Shown` says what a round shows, case by case;
- when `n` rounds are played, `n` writes are counted, as many reads as writes that did not fail, and the cell holds the
  last value that reached it (`after_adapter`, `content_cases`);
- so each round shows what it should (`shown_roundAt`), and a run is made of these rounds (`run_faultyCell`).
-/

namespace Readback.FaultyCell

/-! ## What a round shows -/

section Spec

variable (faults : List Fault) (preset : Option Int64) (value : Nat → Int64)

/-- The write of that number reaches the cell. -/
def Stored (call : UInt64) : Prop := .failWrite call ∉ faults ∧ .dropWrite call ∉ faults

instance : DecidablePred (Stored faults) := fun call =>
  inferInstanceAs (Decidable (.failWrite call ∉ faults ∧ .dropWrite call ∉ faults))

/-- The number of the read in round `i`: one for each round before it whose write did not fail. -/
def readCall (i : Nat) : Nat := i - (List.range i).countP fun j => Fault.failWrite (.ofNat j) ∈ faults

/-- The outcome of a round that read a value. -/
def compared (written observed : Int64) : Outcome := if observed = written then .pass else .mismatch

/-- What round `i` observes and how it ends. -/
inductive Shown (i : Nat) : Option Int64 → Outcome → Prop
  /-- A write that fails ends the round, also if it is to be dropped. -/
  | writeFails : .failWrite (.ofNat i) ∈ faults →
      Shown i none (.adapterError .write ("injected write failure at call " ++ Numeral.natText (UInt64.ofNat i).toNat))
  /-- A read that fails ends the round. -/
  | readFails : .failWrite (.ofNat i) ∉ faults → .failRead (.ofNat (readCall faults i)) ∈ faults →
      Shown i none (.adapterError .read
        ("injected read failure at call " ++ Numeral.natText (UInt64.ofNat (readCall faults i)).toNat))
  /-- Otherwise the last value that reached the cell is read. -/
  | stored {j : Nat} : .failWrite (.ofNat i) ∉ faults → .failRead (.ofNat (readCall faults i)) ∉ faults →
      IsGreatest {j | j ≤ i ∧ Stored faults (.ofNat j)} j → Shown i (some (value j)) (compared (value i) (value j))
  /-- If no value reached the cell, it shows what it held at first. -/
  | preset {v : Int64} : .failWrite (.ofNat i) ∉ faults → .failRead (.ofNat (readCall faults i)) ∉ faults →
      (∀ j ≤ i, ¬ Stored faults (.ofNat j)) → preset = some v → Shown i (some v) (compared (value i) v)
  /-- If it held nothing either, the read fails. -/
  | empty : .failWrite (.ofNat i) ∉ faults → .failRead (.ofNat (readCall faults i)) ∉ faults →
      (∀ j ≤ i, ¬ Stored faults (.ofNat j)) → preset = none → Shown i none (.adapterError .read "no value written")

/-- What the cell holds when `n` rounds are played. -/
def content : Nat → Option Int64
  | 0 => preset
  | n + 1 => if Stored faults (.ofNat n) then some (value n) else content n

variable {faults preset value}

/-- A round shows one thing only: the cases exclude each other. -/
theorem Shown.unique {i : Nat} {observed observed' : Option Int64} {outcome outcome' : Outcome}
    (h : Shown faults preset value i observed outcome) (h' : Shown faults preset value i observed' outcome') :
    observed = observed' ∧ outcome = outcome' := by
  cases h with
  | writeFails hw =>
    cases h' with
    | writeFails _ => exact ⟨rfl, rfl⟩
    | readFails hw' _ => exact absurd hw hw'
    | stored hw' _ _ => exact absurd hw hw'
    | preset hw' _ _ _ => exact absurd hw hw'
    | empty hw' _ _ _ => exact absurd hw hw'
  | readFails hw hr =>
    cases h' with
    | writeFails hw' => exact absurd hw' hw
    | readFails _ _ => exact ⟨rfl, rfl⟩
    | stored _ hr' _ => exact absurd hr hr'
    | preset _ hr' _ _ => exact absurd hr hr'
    | empty _ hr' _ _ => exact absurd hr hr'
  | stored hw hr hj =>
    cases h' with
    | writeFails hw' => exact absurd hw' hw
    | readFails _ hr' => exact absurd hr' hr
    | stored _ _ hj' => rw [hj.unique hj']; exact ⟨rfl, rfl⟩
    | preset _ _ hnone _ => exact absurd hj.1.2 (hnone _ hj.1.1)
    | empty _ _ hnone _ => exact absurd hj.1.2 (hnone _ hj.1.1)
  | preset hw hr hnone hp =>
    cases h' with
    | writeFails hw' => exact absurd hw' hw
    | readFails _ hr' => exact absurd hr' hr
    | stored _ _ hj' => exact absurd hj'.1.2 (hnone _ hj'.1.1)
    | preset _ _ _ hp' => cases hp.symm.trans hp'; exact ⟨rfl, rfl⟩
    | empty _ _ _ hp' => cases hp.symm.trans hp'
  | empty hw hr hnone hp =>
    cases h' with
    | writeFails hw' => exact absurd hw' hw
    | readFails _ hr' => exact absurd hr' hr
    | stored _ _ hj' => exact absurd hj'.1.2 (hnone _ hj'.1.1)
    | preset _ _ _ hp' => cases hp.symm.trans hp'
    | empty _ _ _ _ => exact ⟨rfl, rfl⟩

/-- The cell holds the last value that reached it, or what it held at first. -/
theorem content_cases : ∀ n,
    (∃ j, IsGreatest {j | j < n ∧ Stored faults (.ofNat j)} j ∧ content faults preset value n = some (value j)) ∨
    ((∀ j < n, ¬ Stored faults (.ofNat j)) ∧ content faults preset value n = preset)
  | 0 => .inr ⟨fun j hj => absurd hj (Nat.not_lt_zero j), rfl⟩
  | n + 1 => by
    by_cases hn : Stored faults (.ofNat n)
    · refine .inl ⟨n, ⟨⟨Nat.lt_succ_self n, hn⟩, fun j hj => Nat.le_of_lt_succ hj.1⟩, if_pos hn⟩
    · have hsame : content faults preset value (n + 1) = content faults preset value n := if_neg hn
      have hlt {j : Nat} (hj : j < n + 1) (hs : Stored faults (.ofNat j)) : j < n :=
        Nat.lt_of_le_of_ne (Nat.le_of_lt_succ hj) fun heq => hn (heq ▸ hs)
      rw [hsame]
      rcases content_cases n with ⟨j, hj, hc⟩ | ⟨hnone, hc⟩
      · exact .inl ⟨j, ⟨⟨Nat.lt_succ_of_lt hj.1.1, hj.1.2⟩, fun i hi => hj.2 ⟨hlt hi.1 hi.2, hi.2⟩⟩, hc⟩
      · exact .inr ⟨fun j hj hs => hnone j (hlt hj hs) hs, hc⟩

theorem readCall_succ_of_mem {n : Nat} (h : .failWrite (.ofNat n) ∈ faults) :
    readCall faults (n + 1) = readCall faults n := by
  simp only [readCall, List.range_succ, List.countP_append, List.countP_singleton, h, decide_true, if_true]
  omega

theorem readCall_succ_of_not_mem {n : Nat} (h : .failWrite (.ofNat n) ∉ faults) :
    readCall faults (n + 1) = readCall faults n + 1 := by
  have hle : (List.range n).countP (fun j => Fault.failWrite (.ofNat j) ∈ faults) ≤ n :=
    Nat.le_trans List.countP_le_length (Nat.le_of_eq List.length_range)
  simp only [readCall, List.range_succ, List.countP_append, List.countP_singleton, h, decide_false, Bool.false_eq_true,
    if_false]
  omega

end Spec

/-! ## Calls -/

section Calls

variable {faults : List Fault} {writes reads : UInt64} {cell : Option Int64}

theorem write_of_fail (v : Int64) (h : .failWrite writes ∈ faults) :
    (memoryCell Int64).faulty.write v (⟨faults, writes, reads⟩, cell) =
      .fail ("injected write failure at call " ++ Numeral.natText writes.toNat) (⟨faults, writes + 1, reads⟩, cell) :=
  if_pos (List.contains_iff_mem.mpr h)

theorem write_of_not_fail (v : Int64) (h : .failWrite writes ∉ faults) :
    (memoryCell Int64).faulty.write v (⟨faults, writes, reads⟩, cell) =
      .ok () (⟨faults, writes + 1, reads⟩, if Stored faults writes then some v else cell) := by
  have hfail : ¬ faults.contains (.failWrite writes) = true := fun hc => h (List.contains_iff_mem.mp hc)
  refine (if_neg hfail).trans ?_
  by_cases hdrop : .dropWrite writes ∈ faults
  · rw [if_neg fun hs : Stored faults writes => hs.2 hdrop]
    exact if_pos (List.contains_iff_mem.mpr hdrop)
  · rw [if_pos (show Stored faults writes from ⟨h, hdrop⟩)]
    exact if_neg fun hc => hdrop (List.contains_iff_mem.mp hc)

theorem read_of_fail (h : .failRead reads ∈ faults) :
    (memoryCell Int64).faulty.read (⟨faults, writes, reads⟩, cell) =
      .fail ("injected read failure at call " ++ Numeral.natText reads.toNat) (⟨faults, writes, reads + 1⟩, cell) :=
  if_pos (List.contains_iff_mem.mpr h)

theorem read_of_not_fail (h : .failRead reads ∉ faults) :
    (memoryCell Int64).faulty.read (⟨faults, writes, reads⟩, cell) =
      match cell with
      | some v => .ok v (⟨faults, writes, reads + 1⟩, some v)
      | none => .fail "no value written" (⟨faults, writes, reads + 1⟩, none) := by
  refine (if_neg fun hc => h (List.contains_iff_mem.mp hc)).trans ?_
  cases cell <;> rfl

end Calls

/-! ## Rounds -/

section Rounds

variable {faults : List Fault} {b : Bench (Injector × Option Int64) Int64} {writes reads : UInt64} {cell : Option Int64}

/-- The round that writes a value and reads what the cell holds. -/
def readRound (index : UInt64) (v : Int64) : Option Int64 → Round Int64
  | some o => ⟨index, v, some o, compared v o⟩
  | none => ⟨index, v, none, .adapterError .read "no value written"⟩

/-- A round whose write fails. -/
theorem play_of_failWrite (index : UInt64) (hb : b.adapter = (⟨faults, writes, reads⟩, cell))
    (hw : .failWrite writes ∈ faults) :
    (b.play (memoryCell Int64).faulty index).1 =
        ⟨index, b.generator.next.1, none,
          .adapterError .write ("injected write failure at call " ++ Numeral.natText writes.toNat)⟩ ∧
      (b.play (memoryCell Int64).faulty index).2.adapter = (⟨faults, writes + 1, reads⟩, cell) := by
  have hreply : b.writeReply (memoryCell Int64).faulty = _ :=
    (congrArg ((memoryCell Int64).faulty.write b.generator.next.1) hb).trans (write_of_fail _ hw)
  rw [Bench.play_of_write_error index (congrArg Reply.answer hreply)]
  exact ⟨rfl, congrArg Reply.state hreply⟩

/-- A round that comes to a read: the cell has taken the value, unless it was dropped, and the read is counted. -/
theorem play_of_not_failWrite (index : UInt64) (hb : b.adapter = (⟨faults, writes, reads⟩, cell))
    (hdomain : ∀ v w, b.generator.domain.equivalent v w = (v == w)) (hw : .failWrite writes ∉ faults)
    {cell' : Option Int64} (hcell : (if Stored faults writes then some b.generator.next.1 else cell) = cell') :
    ((b.play (memoryCell Int64).faulty index).1 =
      if .failRead reads ∈ faults then
        ⟨index, b.generator.next.1, none,
          .adapterError .read ("injected read failure at call " ++ Numeral.natText reads.toNat)⟩
      else readRound index b.generator.next.1 cell') ∧
      (b.play (memoryCell Int64).faulty index).2.adapter = (⟨faults, writes + 1, reads + 1⟩, cell') := by
  have hwrite : b.writeReply (memoryCell Int64).faulty = .ok () (⟨faults, writes + 1, reads⟩, cell') := by
    rw [← hcell]
    exact (congrArg ((memoryCell Int64).faulty.write b.generator.next.1) hb).trans (write_of_not_fail _ hw)
  have hanswer := congrArg Reply.answer hwrite
  have hread : b.readReply (memoryCell Int64).faulty =
      (memoryCell Int64).faulty.read (⟨faults, writes + 1, reads⟩, cell') :=
    congrArg (memoryCell Int64).faulty.read (congrArg Reply.state hwrite)
  by_cases hr : .failRead reads ∈ faults
  · rw [read_of_fail hr] at hread
    rw [if_pos hr, Bench.play_of_read_error index hanswer (congrArg Reply.answer hread)]
    exact ⟨rfl, congrArg Reply.state hread⟩
  · rw [read_of_not_fail hr] at hread
    rw [if_neg hr]
    cases cell' with
    | none =>
      rw [Bench.play_of_read_error index hanswer (congrArg Reply.answer hread)]
      exact ⟨rfl, congrArg Reply.state hread⟩
    | some o =>
      by_cases ho : o = b.generator.next.1
      · rw [Bench.play_of_equivalent index hanswer (congrArg Reply.answer hread) (by simp [hdomain, ho])]
        refine ⟨?_, congrArg Reply.state hread⟩
        simp only [readRound, compared, if_pos ho]
        rfl
      · rw [Bench.play_of_not_equivalent index hanswer (congrArg Reply.answer hread)
          (by rw [hdomain]; exact beq_false_of_ne (Ne.symm ho))]
        refine ⟨?_, congrArg Reply.state hread⟩
        simp only [readRound, compared, if_neg ho]
        rfl

variable {preset : Option Int64}

/-- **The two counters and the cell when `n` rounds are played.** -/
theorem after_adapter (hb : b.adapter = ({ faults }, preset))
    (hdomain : ∀ v w, b.generator.domain.equivalent v w = (v == w)) :
    ∀ n, (b.after (memoryCell Int64).faulty n).adapter =
      (⟨faults, .ofNat n, .ofNat (readCall faults n)⟩, content faults preset b.generator.valueAt n)
  | 0 => hb
  | n + 1 => by
    have ih := after_adapter hb hdomain n
    have hgen := b.after_generator (memoryCell Int64).faulty n
    have hsucc (k : Nat) : UInt64.ofNat (k + 1) = .ofNat k + 1 := UInt64.ofNat_add k 1
    by_cases hw : .failWrite (.ofNat n) ∈ faults
    · have hnot : ¬ Stored faults (.ofNat n) := fun hs => hs.1 hw
      rw [Bench.after, (play_of_failWrite _ ih hw).2, readCall_succ_of_mem hw, content, if_neg hnot, hsucc]
    · have hd : ∀ v w, (b.after (memoryCell Int64).faulty n).generator.domain.equivalent v w = (v == w) := by
        rwa [Bench.after_domain]
      rw [Bench.after, (play_of_not_failWrite _ ih hd hw rfl).2, readCall_succ_of_not_mem hw, content, hgen, hsucc,
        hsucc]
      rfl

/-- **Every round shows what it should.** -/
theorem shown_roundAt (hb : b.adapter = ({ faults }, preset))
    (hdomain : ∀ v w, b.generator.domain.equivalent v w = (v == w)) (i : Nat) :
    Shown faults preset b.generator.valueAt i (b.roundAt (memoryCell Int64).faulty i).observed
      (b.roundAt (memoryCell Int64).faulty i).outcome := by
  have hadapter := after_adapter hb hdomain i
  have hgen := b.after_generator (memoryCell Int64).faulty i
  have hvalue : (b.after (memoryCell Int64).faulty i).generator.next.1 = b.generator.valueAt i := by rw [hgen]; rfl
  by_cases hw : .failWrite (.ofNat i) ∈ faults
  · rw [Bench.roundAt, (play_of_failWrite _ hadapter hw).1]
    exact .writeFails hw
  · have hd : ∀ v w, (b.after (memoryCell Int64).faulty i).generator.domain.equivalent v w = (v == w) := by
      rwa [Bench.after_domain]
    have hcell : (if Stored faults (.ofNat i) then some (b.after (memoryCell Int64).faulty i).generator.next.1
        else content faults preset b.generator.valueAt i) = content faults preset b.generator.valueAt (i + 1) := by
      rw [hvalue, content]
    rw [Bench.roundAt, (play_of_not_failWrite _ hadapter hd hw hcell).1, hvalue]
    by_cases hr : .failRead (.ofNat (readCall faults i)) ∈ faults
    · rw [if_pos hr]
      exact .readFails hw hr
    · rw [if_neg hr]
      -- What is read is what the cell holds after the write of this round.
      rcases content_cases (i + 1) with ⟨j, hj, hc⟩ | ⟨hnone, hc⟩
      · rw [hc]
        simp only [Nat.lt_succ_iff] at hj
        exact .stored hw hr hj
      · rw [hc]
        simp only [Nat.lt_succ_iff] at hnone
        cases hp : preset with
        | some v => exact .preset hw hr hnone rfl
        | none => exact .empty hw hr hnone rfl

end Rounds

/-! ## Runs -/

/-- A range is never refused. -/
theorem generator_new (r : IntRange) (seed : Seed) :
    Generator.new r.domain seed = .ok ⟨r.domain, r.sample, seed, .start (.ofSeed seed.value)⟩ := by
  have hcheck : r.toBounds.check = .ok r := dif_pos r.min_le_max
  rw [Generator.new, Bounds.domain, hcheck]
  rfl

/-- **The closed form of a run against a faulty memory cell.** Nothing but its number of rounds ends the run, and each
round is decided by the faults, the values and what the cell held at first. -/
theorem run_faultyCell (r : IntRange) (seed : Seed) (faults : List Fault) (preset : Option Int64) (signals : Signals)
    (rounds : UInt64) (retention : Retention) (hrounds : 1 ≤ rounds) :
    ∃ generator result round,
      Generator.new r.domain seed = .ok generator ∧
      ((Engine.mk ⟨rounds, false, retention⟩).run r.domain seed none (memoryCell Int64).faulty ({ faults }, preset)
        signals).result = .ok result ∧
      result.roundsCompleted = rounds ∧ result.cancelled = false ∧
      result.rounds.toList = ((List.range rounds.toNat).map round).filter (RunResult.keeps retention) ∧
      ∀ i, (round i).index = .ofNat i ∧ (round i).input = generator.valueAt i ∧
        Shown faults preset generator.valueAt i (round i).observed (round i).outcome := by
  obtain ⟨g, hnew, hg⟩ : ∃ g, Generator.new r.domain seed = .ok g ∧ g.domain = r.domain :=
    ⟨_, generator_new r seed, rfl⟩
  obtain ⟨n, b', hcut, hdrive, -⟩ := Engine.drive_eq_resultAt ⟨⟨rounds, false, retention⟩⟩ none
    (memoryCell Int64).faulty ⟨g, ({ faults }, preset), signals, #[]⟩ hrounds rfl
  obtain rfl := hcut.eq_total rfl
  have hrun := Engine.run_eq_of_drive hnew hdrive
  refine ⟨g, _, _, hnew, congrArg Engine.Ending.result hrun, ?_, ?_, Engine.rounds_resultAt _ _, fun i => ?_⟩
  · rw [Engine.roundsCompleted_resultAt]
    exact UInt64.ofNat_toNat
  · rw [← Bool.not_eq_true, Engine.cancelled_resultAt]
    exact fun h => Nat.lt_irrefl _ h.2
  · have hdomain : ∀ v w, g.domain.equivalent v w = (v == w) := fun v w => by rw [hg]; rfl
    have hshown := shown_roundAt (b := ⟨g, ({ faults }, preset), signals, #[]⟩) rfl hdomain i
    exact ⟨(Bench.play_draws _ _ _).1, Bench.roundAt_input _ _ i, hshown⟩

/-- A write that fails, one that is dropped before anything is stored, and a read that fails. -/
def mixedFaults : List Fault := [.failWrite 0, .dropWrite 1, .failRead 1]

/-- Four rounds with these faults, of which the last passes. The read of round 2 has the number 1. -/
theorem run_faultyCell_mixed :
    ∃ result, ((Engine.mk ⟨4, false, .all⟩).run (IntRange.mk ⟨1, 6⟩ (by decide)).domain ⟨42⟩ none
        (memoryCell Int64).faulty ({ faults := mixedFaults }, none) .none).result = .ok result ∧
      result.rounds.toList.map Round.outcome =
        [.adapterError .write ("injected write failure at call " ++ Numeral.natText 0),
          .adapterError .read "no value written",
          .adapterError .read ("injected read failure at call " ++ Numeral.natText 1), .pass] := by
  obtain ⟨g, result, round, -, hrun, -, -, hrounds, hshown⟩ :=
    run_faultyCell (.mk ⟨1, 6⟩ (by decide)) ⟨42⟩ mixedFaults none .none 4 .all (by decide)
  have h0 := ((hshown 0).2.2.unique (.writeFails (by decide))).2
  have h1 := ((hshown 1).2.2.unique (.empty (by decide) (by decide) (by decide) rfl)).2
  have h2 := ((hshown 2).2.2.unique (.readFails (by decide) (by decide))).2
  have hlast : IsGreatest {j | j ≤ 3 ∧ Stored mixedFaults (.ofNat j)} 3 :=
    ⟨⟨Nat.le_refl 3, by decide⟩, fun j hj => hj.1⟩
  have h3 := ((hshown 3).2.2.unique (.stored (by decide) (by decide) hlast)).2
  refine ⟨result, hrun, ?_⟩
  rw [hrounds]
  show [(round 0).outcome, (round 1).outcome, (round 2).outcome, (round 3).outcome] = _
  rw [h0, h1, h2, h3, compared, if_pos rfl]
  rfl

end Readback.FaultyCell
