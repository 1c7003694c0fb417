import Readback.Proofs.Run.Composition

/-!
# The log as a chronicle

The log of a run tells the run: how it started, each completed round with what went wrong in it, why the run ended early
if it did, and its account at the end. `chronicle` writes these lines down from the completed rounds and the result
alone; lines that the adapter leaves itself stand where its calls were made.

- a round logs the value that it writes, the lines of the adapter, and a warning unless it passes (`play_log`);
- round after round the log grows by this and by nothing else (`after_log`);
- what ends a run early is logged, one reason at most (`close_log`, `ended_unique`);
- the log of every run that is not refused is its chronicle, and a threshold shows the lines of it that are severe
  enough (`run_chronicled`).
-/

namespace Readback

variable {σ V : Type}

/-! ## What a round reports -/

/-- Whether a run reports an event itself; notes are the adapter's. -/
def Event.isOwn : Event V → Bool
  | .note _ => false
  | _ => true

/-- The warning about a round, unless it passed. -/
def Round.warning (round : Round V) : List (Event V) :=
  match round.outcome with
  | .pass => []
  | .mismatch => round.observed.toList.map (.mismatched round.index round.input)
  | .adapterError stage cause => [.callFailed stage round.index cause]

/-- The events of a round in which the adapter leaves these lines. -/
def Round.events (notes : List Log.Line) (round : Round V) : List (Event V) :=
  .writing round.index round.input :: (notes.map .note ++ round.warning)

theorem Round.filter_events (notes : List Log.Line) (round : Round V) :
    (round.events notes).filter Event.isOwn = round.events [] := by
  have hnotes : (notes.map (Event.note (V := V))).filter Event.isOwn = [] := by
    simp [Event.isOwn]
  have hwarning : round.warning.filter Event.isOwn = round.warning := by
    rw [List.filter_eq_self]
    intro event hevent
    unfold warning at hevent
    split at hevent
    · cases hevent
    · obtain ⟨o, -, rfl⟩ := List.mem_map.mp hevent
      rfl
    · rw [List.mem_singleton] at hevent
      rw [hevent]
      rfl
  rw [events, List.filter_cons_of_pos rfl, List.filter_append, hnotes, hwarning]
  rfl

namespace Bench

variable (adapter : Adapter σ V) (b : Bench σ V)

/-- The lines that the adapter leaves in the next round. -/
def notes : List Log.Line :=
  match (b.writeReply adapter).answer with
  | .error _ => (b.writeReply adapter).notes
  | .ok () => (b.writeReply adapter).notes ++ (b.readReply adapter).notes

theorem notes_congr_quiet {b b' : Bench σ V} (h : b.quiet = b'.quiet) : b.notes adapter = b'.notes adapter := by
  have hquiet (c : Bench σ V) : c.notes adapter = c.quiet.notes adapter := rfl
  rw [hquiet b, hquiet b', h]

/-- **The log grows by the events of the round.** -/
theorem play_log (index : UInt64) :
    (b.play adapter index).2.log.toList = b.log.toList ++ (b.play adapter index).1.events (b.notes adapter) := by
  rcases b.exchange_cases adapter with ⟨e, hw⟩ | ⟨e, hw, hr⟩ | ⟨o, hw, hr, ho⟩ | ⟨o, hw, hr, ho⟩
  · rw [play_of_write_error index hw]
    simp [written, report, absorb, notes, hw, Round.events, Round.warning, Round.adapterError]
  · rw [play_of_read_error index hw hr]
    simp [readBack, written, report, absorb, notes, hw, Round.events, Round.warning, Round.adapterError]
  · rw [play_of_equivalent index hw hr ho]
    simp [readBack, written, report, absorb, notes, hw, Round.events, Round.warning, Round.pass]
  · rw [play_of_not_equivalent index hw hr ho]
    simp [readBack, written, report, absorb, notes, hw, Round.events, Round.warning, Round.mismatch]

/-- **The log when `n` rounds are played.** -/
theorem after_log : ∀ n, (b.after adapter n).log.toList =
    b.log.toList ++ (List.range n).flatMap fun i => (b.roundAt adapter i).events ((b.after adapter i).notes adapter)
  | 0 => by simp [after]
  | n + 1 => by
    rw [after, play_log, after_log n, List.range_succ, List.flatMap_append, List.append_assoc]
    simp [roundAt]

end Bench

/-! ## The lines of a run -/

/-- A line that the engine writes. -/
def engineLine (level : Log.Level) (message : String) (fields : List (String × String)) : Log.Line :=
  ⟨level, "echoprobe::engine", message, fields⟩

/-- The line about the start. -/
def startLine (rounds : UInt64) (domain : String) (seed : Seed) : Log.Line :=
  engineLine .info
    ("Starting run: " ++ Numeral.natText rounds.toNat ++ " rounds over " ++ domain ++ " with seed " ++ seed.text) []

/-- The line about the write of a round. -/
def writingLine [Value V] (round : Round V) : Log.Line :=
  engineLine .debug "writing" [("round", Numeral.natText round.index.toNat), ("value", Value.text round.input)]

/-- The line about what went wrong in a round. -/
def warningLines [Value V] (round : Round V) : List Log.Line :=
  let index := ("round", Numeral.natText round.index.toNat)
  match round.outcome with
  | .pass => []
  | .mismatch => round.observed.toList.map fun o =>
      engineLine .warn "read-back mismatch" [index, ("expected", Value.text round.input), ("observed", Value.text o)]
  | .adapterError .write cause => [engineLine .warn "write failed" [index, ("cause", cause)]]
  | .adapterError .read cause => [engineLine .warn "read failed" [index, ("cause", cause)]]

/-- The lines of a round in which the adapter leaves these lines. -/
def roundLines [Value V] (notes : List Log.Line) (round : Round V) : List Log.Line :=
  writingLine round :: (notes ++ warningLines round)

/-- The line about the end. -/
def finishLine (r : RunResult V) : Log.Line :=
  engineLine .info
    ("Run finished: " ++ r.verdict.text ++ " after " ++ Numeral.natText r.roundsCompleted.toNat ++ "/" ++
      Numeral.natText r.roundsRequested.toNat ++ " rounds (" ++ Numeral.natText r.tally.passed.toNat ++ " passed, " ++
      Numeral.natText r.tally.mismatched.toNat ++ " mismatched, " ++ Numeral.natText r.tally.adapterErrors.toNat ++
      " adapter errors)") []

namespace Engine

/-- Whether a failure ended the run: the last round did not pass, and that was to be the end. -/
def endedByFailure (e : Engine) (rounds : List (Round V)) : Bool :=
  e.config.stopOnFirstFailure && rounds.getLast?.any (!·.isPass)

/-- The line about why a run ended early. -/
def endingLines (e : Engine) (rounds : List (Round V)) (r : RunResult V) : List Log.Line :=
  (if r.cancelled then
    [engineLine .info ("Stop requested, ending run after " ++ Numeral.natText r.roundsCompleted.toNat ++ " rounds") []]
  else []) ++
  if e.endedByFailure rounds then
    [engineLine .info ("Stopping at first failure (round " ++ Numeral.natText (r.roundsCompleted.toNat - 1) ++ ")") []]
  else []

/-- The lines of a run that completed these rounds; `notes i` are those that the adapter left in round `i`. -/
def chronicle [Value V] (e : Engine) (g : Generator V) (notes : Nat → List Log.Line) (rounds : List (Round V))
    (r : RunResult V) : List Log.Line :=
  [startLine e.config.rounds g.domain.label g.seed] ++
    rounds.flatMap (fun round => roundLines (notes round.index.toNat) round) ++ e.endingLines rounds r ++ [finishLine r]

/-! ## The events of a run -/

variable {e : Engine} {stop : Option StopSignal} {adapter : Adapter σ V} {b b' : Bench σ V} {r : RunResult V}

theorem failsAt_eq_endedByFailure : ∀ n, e.failsAt adapter b n = e.endedByFailure (b.firstRounds adapter n)
  | 0 => by simp [failsAt, endedByFailure, Bench.firstRounds]
  | n + 1 => by simp [failsAt, endedByFailure, Bench.firstRounds_succ]

/-- What is logged when a run is cut. -/
theorem close_log (adapter : Adapter σ V) (b : Bench σ V) (total n : Nat) (p : Progress σ V) :
    (e.close adapter b total n p).bench.log.toList = p.bench.log.toList ++
      (if !e.failsAt adapter b n && decide (n < total) then [.stopRequested (.ofNat n)] else []) ++
      if e.failsAt adapter b n then [.stoppedAtFailure (.ofNat (n - 1))] else [] := by
  unfold close
  cases e.failsAt adapter b n with
  | true => simp [Bench.report]
  | false =>
    by_cases hlt : n < total
    · simp [Bench.report, hlt]
    · simp [hlt]

/-- The events about why a run ended early. -/
def endings (e : Engine) (rounds : List (Round V)) (r : RunResult V) : List (Event V) :=
  (if r.cancelled then [.stopRequested r.roundsCompleted] else []) ++
  if e.endedByFailure rounds then [.stoppedAtFailure (.ofNat (r.roundsCompleted.toNat - 1))] else []

/-- The events of a run on the bench `b` with result `r`; `notes i` are the lines that the adapter leaves in round
`i`. -/
def told (e : Engine) (adapter : Adapter σ V) (b : Bench σ V) (notes : Nat → List Log.Line) (r : RunResult V) :
    List (Event V) :=
  [.started e.config.rounds b.generator.domain.label b.generator.seed] ++
    ((List.range r.roundsCompleted.toNat).flatMap fun i => (b.roundAt adapter i).events (notes i)) ++
    e.endings (b.firstRounds adapter r.roundsCompleted.toNat) r ++ [finishEvent r]

/-- **A run logs its events**, one after the other. -/
theorem drive_log (h : e.drive stop adapter b = (.ok r, b')) :
    b'.log.toList = b.log.toList ++ e.told adapter b (fun i => (b.after adapter i).notes adapter) r := by
  obtain ⟨hrounds, hstop⟩ := drive_ok (congrArg Prod.fst h)
  obtain ⟨n, hcut, hdrive⟩ := drive_eq_close e stop adapter b hrounds hstop
  obtain ⟨m, -, hcut', hr, -, -⟩ := drive_ok_cases (congrArg Prod.fst h)
  obtain rfl := hcut.unique hcut'
  rw [h, finish] at hdrive
  obtain ⟨hresult, hbench⟩ := Prod.mk.inj hdrive
  have hcount : r.roundsCompleted = .ofNat n := by rw [hr, roundsCompleted_resultAt]
  have hn : r.roundsCompleted.toNat = n := by rw [hcount, UInt64.toNat_ofNat_of_lt' hcut.lt_size]
  have hcancelled : r.cancelled = (!e.failsAt adapter b n && decide (n < e.config.rounds.toNat)) := by rw [hr]; rfl
  -- The course is that of the bench without its first line, so the rounds and the notes are the same.
  have hstart := quiet_opened (e := e) b
  have hround := Bench.roundAt_congr_quiet adapter hstart
  have hnotes (i : Nat) := Bench.notes_congr_quiet adapter (Bench.after_congr_quiet adapter hstart i)
  have hopened : (e.opened b).log.toList =
      b.log.toList ++ [.started e.config.rounds b.generator.domain.label b.generator.seed] := Array.toList_push
  rw [hbench, ← Except.ok.inj hresult, Bench.report, Array.toList_push, close_log, progressAt, Bench.after_log,
    failsAt_congr_quiet hstart n, ← hcancelled, failsAt_eq_endedByFailure, told, endings, hn, hcount]
  simp only [hround, hnotes, hopened, List.append_assoc]

/-! ## From events to lines -/

section Lines

variable [Value V]

theorem map_line_events (notes : List Log.Line) (round : Round V) :
    (round.events notes).map Event.line = roundLines notes round := by
  have hnotes : (notes.map (Event.note (V := V))).map Event.line = notes := by
    rw [List.map_map]
    exact List.map_id notes
  have hwarning : round.warning.map Event.line = warningLines round := by
    unfold Round.warning warningLines
    cases round.outcome with
    | pass => rfl
    | mismatch =>
      dsimp only
      rw [List.map_map]
      rfl
    | adapterError stage cause => cases stage <;> rfl
  rw [Round.events, List.map_cons, List.map_append, hnotes, hwarning]
  rfl

theorem map_line_endings (rounds : List (Round V)) (r : RunResult V) :
    (e.endings rounds r).map Event.line = e.endingLines rounds r := by
  have hlast : (UInt64.ofNat (r.roundsCompleted.toNat - 1)).toNat = r.roundsCompleted.toNat - 1 :=
    UInt64.toNat_ofNat_of_lt' (Nat.lt_of_le_of_lt (Nat.sub_le _ 1) r.roundsCompleted.toNat_lt)
  unfold endings endingLines
  rw [List.map_append, ← hlast, UInt64.ofNat_toNat]
  split <;> split <;> rfl

/-- **The lines of the events are the chronicle.** -/
theorem map_line_told (adapter : Adapter σ V) (b : Bench σ V) (notes : Nat → List Log.Line) (r : RunResult V) :
    (e.told adapter b notes r).map Event.line =
      e.chronicle b.generator notes (b.firstRounds adapter r.roundsCompleted.toNat) r := by
  have hrounds : ((List.range r.roundsCompleted.toNat).flatMap fun i =>
        ((b.roundAt adapter i).events (notes i)).map Event.line) =
      (b.firstRounds adapter r.roundsCompleted.toNat).flatMap fun round =>
        roundLines (notes round.index.toNat) round := by
    rw [Bench.firstRounds, List.flatMap_map]
    refine List.flatMap_congr fun i hi => ?_
    have hi' : i < UInt64.size := Nat.lt_trans (List.mem_range.mp hi) r.roundsCompleted.toNat_lt
    rw [map_line_events, Bench.roundAt_index, UInt64.toNat_ofNat_of_lt' hi']
  simp only [told, chronicle, List.map_append, List.map_flatMap, hrounds, map_line_endings]
  rfl

/-- What a threshold shows are the lines that are severe enough. -/
theorem logLines_eq_filter (level : Log.Level) (events : List (Event V)) :
    logLines (some level) events = (events.map Event.line).filter (·.level.rank ≤ level.rank) := by
  rw [logLines, List.filter_map]
  rfl

end Lines

/-- The adapter's lines apart, the events do not depend on them. -/
theorem filter_told (adapter : Adapter σ V) (b : Bench σ V) (notes : Nat → List Log.Line) (r : RunResult V) :
    (e.told adapter b notes r).filter Event.isOwn = e.told adapter b (fun _ => []) r := by
  have hendings : (e.endings (b.firstRounds adapter r.roundsCompleted.toNat) r).filter Event.isOwn =
      e.endings (b.firstRounds adapter r.roundsCompleted.toNat) r := by
    unfold endings
    split <;> split <;> rfl
  simp only [told, List.filter_append, List.filter_flatMap, Round.filter_events, hendings]
  rfl

/-- A run has one reason at most to end early. -/
theorem ended_unique (h : (e.drive stop adapter b).1 = .ok r) (hcancelled : r.cancelled = true) :
    e.endedByFailure (b.firstRounds adapter r.roundsCompleted.toNat) = false := by
  obtain ⟨n, -, hcut, rfl, -, -⟩ := drive_ok_cases h
  rw [roundsCompleted_resultAt, UInt64.toNat_ofNat_of_lt' hcut.lt_size, ← failsAt_eq_endedByFailure]
  exact (cancelled_resultAt.mp hcancelled).1

/-! ## Logs of runs -/

variable [Value V]

/-- There is one warning about a round that did not pass, and none about one that did. -/
theorem length_warningLines {round : Round V}
    (hobserved : round.outcome = .mismatch → ∃ o, round.observed = some o) :
    (warningLines round).length = if round.isPass then 0 else 1 := by
  unfold warningLines Round.isPass
  cases houtcome : round.outcome with
  | pass => rfl
  | mismatch =>
    obtain ⟨o, ho⟩ := hobserved houtcome
    rw [ho]
    rfl
  | adapterError stage cause => cases stage <;> rfl

/-- The log tells the run on the bench `b` that gave the result `r`. -/
structure Chronicled (e : Engine) (adapter : Adapter σ V) (b : Bench σ V) (r : RunResult V) (log : List (Event V)) :
    Prop where
  /-- The whole log, with the lines that the adapter left where it left them. -/
  whole : log.map Event.line = e.chronicle b.generator (fun i => (b.after adapter i).notes adapter)
    (b.firstRounds adapter r.roundsCompleted.toNat) r
  /-- What the run reports itself. -/
  own : (log.filter Event.isOwn).map Event.line =
    e.chronicle b.generator (fun _ => []) (b.firstRounds adapter r.roundsCompleted.toNat) r
  warned : ∀ round ∈ b.firstRounds adapter r.roundsCompleted.toNat,
    (warningLines round).length = if round.isPass then 0 else 1
  one_reason : ¬ (r.cancelled = true ∧ e.endedByFailure (b.firstRounds adapter r.roundsCompleted.toNat) = true)
  /-- What is shown at a level. -/
  shown (level : Log.Level) : logLines (some level) log =
    (e.chronicle b.generator (fun i => (b.after adapter i).notes adapter)
      (b.firstRounds adapter r.roundsCompleted.toNat) r).filter (·.level.rank ≤ level.rank)

theorem drive_chronicled (h : e.drive stop adapter b = (.ok r, b')) (hfresh : b.log = #[]) :
    e.Chronicled adapter b r b'.log.toList := by
  have hlog := drive_log h
  rw [hfresh, List.nil_append] at hlog
  have hwhole := map_line_told (e := e) adapter b (fun i => (b.after adapter i).notes adapter) r
  constructor
  · rw [hlog, hwhole]
  · rw [hlog, filter_told, map_line_told]
  · intro round hmem
    exact length_warningLines (b.exists_observed_of_mismatch adapter hmem)
  · rintro ⟨hcancelled, hended⟩
    rw [ended_unique (congrArg Prod.fst h) hcancelled] at hended
    cases hended
  · intro level
    rw [logLines_eq_filter, hlog, hwhole]

/-- **The log is the chronicle of the run**, for any domain, adapter, signal and configuration: one line at the start;
for each completed round in order a line with the value written, and behind it one warning if the round did not pass;
one line about a stop if the run was cancelled, or one about a failure if the last round was to be the last for that,
and never both; and one line with the verdict and the counters of the result. Each level shows those of the lines that
are as severe or more. -/
theorem run_chronicled (e : Engine) (stop : Option StopSignal) (adapter : Adapter σ V) :
    (∀ (domain : Domain V) (seed : Seed) (state : σ) (signals : Signals) (r : RunResult V),
      (e.run domain seed stop adapter state signals).result = .ok r →
        ∃ generator, Generator.new domain seed = .ok generator ∧ generator.domain = domain ∧ generator.seed = seed ∧
          e.Chronicled adapter ⟨generator, state, signals, #[]⟩ r
            (e.run domain seed stop adapter state signals).log.toList) ∧
      ∀ (generator : Generator V) (state : σ) (signals : Signals) (r : RunResult V),
        (e.runWith generator adapter state signals).1.result = .ok r →
          e.Chronicled adapter ⟨generator, state, signals, #[]⟩ r
            (e.runWith generator adapter state signals).1.log.toList := by
  constructor
  · intro domain seed state signals r h
    obtain ⟨generator, hnew, hanswer⟩ := run_ok h
    obtain ⟨-, b', -, -, hdrive, -⟩ := drive_ok_cases hanswer
    refine ⟨generator, hnew, Generator.domain_of_new hnew, Generator.seed_of_new hnew, ?_⟩
    rw [run_eq_of_drive hnew hdrive]
    exact drive_chronicled hdrive rfl
  · intro generator state signals r h
    obtain ⟨-, b', -, -, hdrive, -⟩ := drive_ok_cases (e := e) h
    have hlog : (e.runWith generator adapter state signals).1.log = b'.log := by rw [runWith, hdrive]
    rw [hlog]
    exact drive_chronicled hdrive rfl

/-- Three rounds on the bench of mixed outcomes, to be ended by the first failure. -/
def mixedRun : Ending (Injector × Option Int64) Int64 :=
  (Engine.mk ⟨3, true, .all⟩).run sevens ⟨1⟩ none (memoryCell Int64).faulty mixedBench.adapter .none

/-- The first of these rounds fails, and so it is the last. -/
theorem run_chronicled_mixed :
    ∃ r generator, mixedRun.result = .ok r ∧
      (Engine.mk ⟨3, true, .all⟩).Chronicled (memoryCell Int64).faulty ⟨generator, mixedBench.adapter, .none, #[]⟩ r
        mixedRun.log.toList ∧
      logLines (some .info) mixedRun.log.toList =
        [engineLine .info "Starting run: 3 rounds over [7, 7] with seed 1" [],
          engineLine .warn "read-back mismatch" [("round", "0"), ("expected", "7"), ("observed", "3")],
          engineLine .info "Stopping at first failure (round 0)" [],
          engineLine .info "Run finished: FAIL after 1/3 rounds (0 passed, 1 mismatched, 0 adapter errors)" []] := by
  obtain ⟨r, hrun⟩ : ∃ r, mixedRun.result = .ok r := ⟨_, rfl⟩
  obtain ⟨generator, -, -, -, hchronicled⟩ := (run_chronicled (Engine.mk ⟨3, true, .all⟩) none
    (memoryCell Int64).faulty).1 sevens ⟨1⟩ mixedBench.adapter .none r hrun
  exact ⟨r, generator, hrun, hchronicled, rfl⟩

end Engine

end Readback
