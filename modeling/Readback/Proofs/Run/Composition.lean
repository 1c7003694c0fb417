import Readback.Proofs.Run.Accounting

/-!
# Runs one after the other

A run with a generator that its caller goes on using leaves off where the next can go on: nothing but the generator, the
adapter and the signals is carried from round to round, and a round does not depend on its number.

- a round at another place differs in its index alone (`play_at`), so the course from a later bench on is the rest of
  the course, with lower indices (`after_add`, `roundAt_add`, `firstRounds_add`);
- a run that is continued where it would not have ended is cut where its continuation is (`CutAt.add`);
- hence a run of `n` rounds and one of `m` rounds make up a run of `n + m` rounds (`runWith_append`).
-/

namespace Readback

variable {σ V : Type}

/-! ## Rounds at other places -/

/-- The round as it is `n` places later. -/
def Round.shift (n : UInt64) (round : Round V) : Round V := { round with index := round.index + n }

@[simp] theorem Round.isPass_shift (n : UInt64) (round : Round V) : (round.shift n).isPass = round.isPass := rfl

namespace Bench

variable (adapter : Adapter σ V)

/-- **A round does not depend on its number**: at another place it has another index, and changes the bench as before
but for the log. -/
theorem play_at (b : Bench σ V) (index index' : UInt64) :
    (b.play adapter index').1 = { (b.play adapter index).1 with index := index' } ∧
      (b.play adapter index').2.quiet = (b.play adapter index).2.quiet := by
  rcases b.exchange_cases adapter with ⟨e, hw⟩ | ⟨e, hw, hr⟩ | ⟨o, hw, hr, ho⟩ | ⟨o, hw, hr, ho⟩
  · rw [play_of_write_error index hw, play_of_write_error index' hw]
    exact ⟨rfl, rfl⟩
  · rw [play_of_read_error index hw hr, play_of_read_error index' hw hr]
    exact ⟨rfl, rfl⟩
  · rw [play_of_equivalent index hw hr ho, play_of_equivalent index' hw hr ho]
    exact ⟨rfl, rfl⟩
  · rw [play_of_not_equivalent index hw hr ho, play_of_not_equivalent index' hw hr ho]
    exact ⟨rfl, rfl⟩

/-- The course from a later bench on leads to the same benches. -/
theorem after_add (b : Bench σ V) (n : Nat) :
    ∀ i, (b.after adapter (n + i)).quiet = ((b.after adapter n).after adapter i).quiet
  | 0 => rfl
  | i + 1 => by
    have hplay := (play_congr_quiet adapter (.ofNat (n + i)) (after_add b n i)).2
    have hat := (((b.after adapter n).after adapter i).play_at adapter (.ofNat i) (.ofNat (n + i))).2
    exact hplay.trans hat

/-- The round at a place is the round of the later course, with the places before added to its index. -/
theorem roundAt_add (b : Bench σ V) (n i : Nat) :
    b.roundAt adapter (n + i) = ((b.after adapter n).roundAt adapter i).shift (.ofNat n) := by
  have hplay := (play_congr_quiet adapter (.ofNat (n + i)) (after_add adapter b n i)).1
  have hat := (((b.after adapter n).after adapter i).play_at adapter (.ofNat i) (.ofNat (n + i))).1
  have hindex : UInt64.ofNat (n + i) = ((b.after adapter n).roundAt adapter i).index + .ofNat n := by
    rw [roundAt_index, UInt64.ofNat_add, UInt64.add_comm]
  rw [roundAt, hplay, hat, hindex]
  rfl

/-- The rounds of a course are those up to a bench, and those from there on. -/
theorem firstRounds_add (b : Bench σ V) (n i : Nat) :
    b.firstRounds adapter (n + i) =
      b.firstRounds adapter n ++ ((b.after adapter n).firstRounds adapter i).map (Round.shift (.ofNat n)) := by
  rw [firstRounds, List.range_add, List.map_append, List.map_map, firstRounds, firstRounds, List.map_map]
  refine congrArg _ (List.map_congr_left fun j _ => ?_)
  exact roundAt_add adapter b n j

end Bench

/-! ## Cuts -/

namespace Engine

variable {e : Engine} {stop : Option StopSignal} {adapter : Adapter σ V} {b : Bench σ V}

/-- There is one place where a run is cut. -/
theorem CutAt.unique {total n n' : Nat} (h : e.CutAt stop adapter b total n) (h' : e.CutAt stop adapter b total n') :
    n = n' := by
  have hle {i j : Nat} (hi : e.CutAt stop adapter b total i) (hj : e.CutAt stop adapter b total j) : i ≤ j := by
    rcases hj.ends with rfl | hends
    · exact hi.le_total
    · exact hi.le_of_endsAt hends
  exact Nat.le_antisymm (hle h h') (hle h' h)

/-- What ends a run after the bench at `n` ends the later course. -/
theorem endsAt_add {n i : Nat} (hi : 0 < i) :
    e.EndsAt stop adapter b (n + i) ↔ e.EndsAt stop adapter (b.after adapter n) i := by
  obtain ⟨i, rfl⟩ := Nat.exists_eq_add_of_lt hi
  have hround := Bench.roundAt_add adapter b n (0 + i)
  have hsignals := (Bench.quiet_eq_iff.mp (Bench.after_add adapter b n (0 + i + 1))).2.2
  rw [← Nat.add_assoc, endsAt_succ, endsAt_succ, hround, Round.isPass_shift]
  rw [← Nat.add_assoc] at hsignals
  rw [hsignals]

/-- **A run that nothing ends at `n` is cut where its continuation from there is.** -/
theorem CutAt.add {n m i : Nat} (hbefore : ∀ j ≤ n, ¬ e.EndsAt stop adapter b j)
    (h : e.CutAt stop adapter (b.after adapter n) m i) : e.CutAt stop adapter b (n + m) (n + i) where
  le_total := Nat.add_le_add_left h.le_total n
  ends := by
    rcases h.ends with rfl | hends
    · exact .inl rfl
    · refine .inr ((endsAt_add ?_).mpr hends)
      exact Nat.pos_of_ne_zero fun h0 => not_endsAt_zero (h0 ▸ hends)
  not_before j hj hends := by
    by_cases hle : j ≤ n
    · exact hbefore j hle hends
    · obtain ⟨k, rfl⟩ := Nat.exists_eq_add_of_le (Nat.le_of_not_le hle)
      exact h.not_before k (by omega) ((endsAt_add (by omega)).mp hends)

/-- Without a signal, nothing ends a run whose rounds all pass, or which is not to stop at a failure. -/
theorem not_endsAt_of_pass {n : Nat}
    (h : e.config.stopOnFirstFailure = false ∨ ∀ i < n, (b.roundAt adapter i).isPass = true) :
    ∀ j ≤ n, ¬ e.EndsAt none adapter b j
  | 0, _ => not_endsAt_zero
  | j + 1, hj => by
    rw [endsAt_succ]
    rintro (⟨hflag, hfail⟩ | hsignal)
    · rcases h with hoff | hpass
      · rw [hoff] at hflag
        cases hflag
      · rw [hpass j hj] at hfail
        cases hfail
    · cases hsignal

/-- Such a run plays all its rounds. -/
theorem CutAt.eq_total_of_pass {total n : Nat} (h : e.CutAt none adapter b total n)
    (hpass : e.config.stopOnFirstFailure = false ∨ ∀ i < n, (b.roundAt adapter i).isPass = true) : n = total :=
  h.ends.resolve_right (not_endsAt_of_pass hpass n (Nat.le_refl n))

/-! ## Runs with a generator of the caller's -/

/-- The engine with another number of rounds. -/
def withRounds (e : Engine) (rounds : UInt64) : Engine where
  config := { e.config with rounds }

/-- Where a run is cut depends on its number of rounds only as a limit. -/
theorem cutAt_withRounds {rounds : UInt64} {total n : Nat} :
    (e.withRounds rounds).CutAt stop adapter b total n ↔ e.CutAt stop adapter b total n :=
  ⟨fun h => ⟨h.le_total, h.ends, h.not_before⟩, fun h => ⟨h.le_total, h.ends, h.not_before⟩⟩

/-- A result `r` is made up of `r₁`, of `n` rounds, and `r₂` behind it. -/
structure Joins (n : UInt64) (r₁ r₂ r : RunResult V) : Prop where
  rounds : r.rounds.toList = r₁.rounds.toList ++ r₂.rounds.toList.map (Round.shift n)
  /-- No index wraps when it is increased. -/
  index (round : Round V) : round ∈ r₂.rounds.toList → (round.shift n).index.toNat = round.index.toNat + n.toNat
  completed : r.roundsCompleted.toNat = r₁.roundsCompleted.toNat + r₂.roundsCompleted.toNat
  passed : r.tally.passed.toNat = r₁.tally.passed.toNat + r₂.tally.passed.toNat
  mismatched : r.tally.mismatched.toNat = r₁.tally.mismatched.toNat + r₂.tally.mismatched.toNat
  adapterErrors : r.tally.adapterErrors.toNat = r₁.tally.adapterErrors.toNat + r₂.tally.adapterErrors.toNat

/-- Accounts of rounds that follow each other join. -/
theorem joins_of_accounts {rounds₁ rounds₂ : List (Round V)} {n : UInt64} {r₁ r₂ r : RunResult V}
    (h₁ : r₁.Accounts rounds₁) (h₂ : r₂.Accounts rounds₂) (h : r.Accounts (rounds₁ ++ rounds₂.map (Round.shift n)))
    (hretention₁ : r₁.retention = r.retention) (hretention₂ : r₂.retention = r.retention)
    (hindex : ∀ round ∈ rounds₂, (round.shift n).index.toNat = round.index.toNat + n.toNat) : Joins n r₁ r₂ r where
  rounds := by
    rw [h.kept, h₁.kept, h₂.kept, hretention₁, hretention₂, List.filter_append, List.filter_map]
    rfl
  index round hround := by
    rw [h₂.kept] at hround
    exact hindex round (List.mem_filter.mp hround).1
  completed := by rw [h.completed, h₁.completed, h₂.completed, List.length_append, List.length_map]
  passed := by
    rw [h.passed, h₁.passed, h₂.passed, List.countP_append, List.countP_map]
    rfl
  mismatched := by
    rw [h.mismatched, h₁.mismatched, h₂.mismatched, List.countP_append, List.countP_map]
    rfl
  adapterErrors := by
    rw [h.adapterErrors, h₁.adapterErrors, h₂.adapterErrors, List.countP_append, List.countP_map]
    rfl

theorem runWith_eq_of_drive {g : Generator V} {state : σ} {signals : Signals}
    {result : Except SetupError (RunResult V)} {b' : Bench σ V}
    (h : e.drive none adapter { generator := g, adapter := state, signals } = (result, b')) :
    e.runWith g adapter state signals = (⟨result, b'.adapter, b'.signals, b'.log⟩, b'.generator) := by
  simp only [runWith, h]

/-- The indices of rounds that can be numbered from `n` on do not wrap. -/
theorem index_shift_firstRounds {n : UInt64} {k : Nat} (hfits : n.toNat + k < UInt64.size) {round : Round V}
    (hround : round ∈ b.firstRounds adapter k) : (round.shift n).index.toNat = round.index.toNat + n.toNat := by
  obtain ⟨i, hi, rfl⟩ := (b.mem_firstRounds adapter).mp hround
  have hindex : (b.roundAt adapter i).index.toNat = i := by
    rw [Bench.roundAt_index]
    exact UInt64.toNat_ofNat_of_lt' (by omega)
  show ((b.roundAt adapter i).index + n).toNat = _
  rw [UInt64.toNat_add, hindex]
  exact Nat.mod_eq_of_lt (show i + n.toNat < UInt64.size by omega)

/-- The result of a run that is cut behind a bench joins the results up to there and from there on. -/
theorem joins_resultAt {b₁ : Bench σ V} {n m : UInt64} {k : Nat} (hb₁ : b₁.quiet = (b.after adapter n.toNat).quiet)
    (hfits : n.toNat + k < UInt64.size) :
    Joins n ((e.withRounds n).resultAt adapter b n.toNat) ((e.withRounds m).resultAt adapter b₁ k)
      ((e.withRounds (n + m)).resultAt adapter b (n.toNat + k)) := by
  have hretention (rounds : UInt64) (c : Bench σ V) (i : Nat) :
      ((e.withRounds rounds).resultAt adapter c i).retention = e.config.retention :=
    (RunResult.recordAll_frame _ _).2.2.2.1
  have h₁ := accounts_resultAt (e.withRounds n) adapter b n.toNat_lt
  have h₂ := accounts_resultAt (e.withRounds m) adapter b₁ (show k < UInt64.size by omega)
  have h := accounts_resultAt (e.withRounds (n + m)) adapter b hfits
  rw [Bench.firstRounds_add, UInt64.ofNat_toNat, ← Bench.firstRounds_congr_quiet adapter hb₁] at h
  refine joins_of_accounts h₁ h₂ h ?_ ?_ fun round hround => index_shift_firstRounds hfits hround
  · rw [hretention, hretention]
  · rw [hretention, hretention]

/-- **Runs compose over a generator of the caller's.** A run of `n` rounds and a run of `m` rounds that goes on with the
generator, the adapter and the signals as the first left them make up one run of `n + m` rounds: unless the engine is to
stop at a failure and the first run has one, the results join, and all is left in the same state. -/
theorem runWith_append (e : Engine) (g : Generator V) (adapter : Adapter σ V) (state : σ) (signals : Signals)
    (n m : UInt64) (hn : 1 ≤ n) (hm : 1 ≤ m) (hfits : n.toNat + m.toNat < UInt64.size) :
    ∃ r₁ r₂ r first second single,
      (e.withRounds n).runWith g adapter state signals = first ∧
      (e.withRounds m).runWith first.2 adapter first.1.adapter first.1.signals = second ∧
      (e.withRounds (n + m)).runWith g adapter state signals = single ∧
      first.1.result = .ok r₁ ∧ second.1.result = .ok r₂ ∧ single.1.result = .ok r ∧
      (e.config.stopOnFirstFailure = false ∨ r₁.verdict = .pass →
        Joins n r₁ r₂ r ∧ single.2 = second.2 ∧ single.1.adapter = second.1.adapter ∧
          single.1.signals = second.1.signals) := by
  have hsum : (n + m).toNat = n.toNat + m.toNat := by
    rw [UInt64.toNat_add]
    exact Nat.mod_eq_of_lt hfits
  have hpos : 1 ≤ n + m := by
    rw [UInt64.le_iff_toNat_le] at hn ⊢
    rw [hsum]
    exact Nat.le_trans hn (Nat.le_add_right _ _)
  obtain ⟨i, b₁', hcut₁, hdrive₁, hquiet₁⟩ := drive_eq_resultAt (e.withRounds n) none adapter
    { generator := g, adapter := state, signals } hn rfl
  obtain ⟨k, b₂', hcut₂, hdrive₂, hquiet₂⟩ := drive_eq_resultAt (e.withRounds m) none adapter b₁'.quiet hm rfl
  obtain ⟨l, b', hcut, hdrive, hquiet⟩ := drive_eq_resultAt (e.withRounds (n + m)) none adapter
    { generator := g, adapter := state, signals } hpos rfl
  refine ⟨_, _, _, _, _, _, runWith_eq_of_drive hdrive₁, runWith_eq_of_drive hdrive₂, runWith_eq_of_drive hdrive,
    rfl, rfl, rfl, fun hgoes => ?_⟩
  -- Nothing has ended the first run, so it has played all its rounds.
  have hpass : e.config.stopOnFirstFailure = false ∨
      ∀ j < i, (Bench.roundAt adapter { generator := g, adapter := state, signals } j).isPass = true := by
    refine hgoes.imp_right fun hverdict j hj => ?_
    have hall := (accounts_resultAt (e.withRounds n) adapter _ hcut₁.lt_size).verdict_eq_pass_iff.mp hverdict
    exact hall _ ((Bench.mem_firstRounds _ _).mpr ⟨j, hj, rfl⟩)
  obtain rfl : i = n.toNat := hcut₁.eq_total_of_pass hpass
  -- The second run goes on with the course of the first, and the single run is cut where the second is.
  have hstart : b₁'.quiet.quiet = (Bench.after adapter { generator := g, adapter := state, signals } n.toNat).quiet :=
    hquiet₁
  obtain rfl : l = n.toNat + k := by
    have hcontinued : e.CutAt none adapter (Bench.after adapter { generator := g, adapter := state, signals } n.toNat)
        m.toNat k := cutAt_withRounds.mp (hcut₂.congr_quiet hstart)
    have hjoined := hcontinued.add (not_endsAt_of_pass hpass)
    rw [← hsum] at hjoined
    exact CutAt.unique (cutAt_withRounds.mp hcut) hjoined
  have hend : b'.quiet = b₂'.quiet := by
    rw [hquiet, hquiet₂, Bench.after_add]
    exact Bench.after_congr_quiet adapter hstart.symm k
  obtain ⟨hgenerator, hadapter, hsignals⟩ := Bench.quiet_eq_iff.mp hend
  have hle : k ≤ m.toNat := hcut₂.le_total
  exact ⟨joins_resultAt hstart (by omega), hgenerator, hadapter, hsignals⟩

/-- Two rounds that pass and then a run of up to three that stops at its first failure: together the run of five rounds,
which stops there too. -/
theorem runWith_append_stopping :
    ∃ r₁ r₂ r : RunResult Int64, Joins 2 r₁ r₂ r ∧ r₁.verdict = .pass ∧ r₂.roundsCompleted = 2 ∧
      ((Engine.mk ⟨5, true, .all⟩).runWith mixedBench.generator (memoryCell Int64).faulty
        ({ faults := [.failRead 3] }, none) .none).1.result = .ok r := by
  obtain ⟨r₁, r₂, r, first, second, single, rfl, rfl, rfl, h₁, h₂, h, hjoin⟩ :=
    runWith_append (Engine.mk ⟨1, true, .all⟩) mixedBench.generator (memoryCell Int64).faulty
      ({ faults := [.failRead 3] }, none) .none 2 3 (by decide) (by decide) (by decide)
  obtain rfl := Except.ok.inj (h₁.symm.trans rfl)
  obtain rfl := Except.ok.inj (h₂.symm.trans rfl)
  exact ⟨_, _, r, (hjoin (.inr rfl)).1, rfl, rfl, h⟩

end Engine

end Readback
