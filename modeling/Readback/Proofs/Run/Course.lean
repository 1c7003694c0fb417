import Readback.Run.Engine

/-!
# The course of a run

Rounds played one after the other from a bench, whatever may ask for a stop: `after n` is the bench when `n` rounds are
played, `roundAt n` the round that comes next, `firstRounds n` the rounds so far. A run plays a beginning of this
course, so facts about runs are facts about the course and about where it is cut.

- a round takes one of four ways, and each gives the round and the bench after it (`exchange_cases`, `play_of_…`);
- a round takes the next value of the generator, whatever the adapter does (`after_generator`, `roundAt_input`);
- the log is written and never read (`play_eq_quiet`, `after_congr_quiet`, `roundAt_congr_quiet`);
- recording the rounds of the course counts each of them and keeps the chosen ones (`rounds_recordAll`).
-/

namespace Readback

variable {σ V : Type}

/-! ## One round -/

namespace Bench

variable (adapter : Adapter σ V) (b : Bench σ V) (index : UInt64)

/-- The reply to the write of the next value. -/
def writeReply : Reply σ Unit := adapter.write b.generator.next.1 b.adapter

/-- The reply to the read after that write. -/
def readReply : Reply σ V := adapter.read (b.writeReply adapter).state

/-- The bench when the next value is drawn and written. -/
def written : Bench σ V :=
  ({ b with generator := b.generator.next.2 }.report (.writing index b.generator.next.1)).absorb (b.writeReply adapter)

/-- The bench when that value is read back. -/
def readBack : Bench σ V := (b.written adapter index).absorb (b.readReply adapter)

variable {adapter b}

theorem play_of_write_error {e : AdapterError} (hw : (b.writeReply adapter).answer = .error e) :
    b.play adapter index = (.adapterError index b.generator.next.1 .write e,
      (b.written adapter index).report (.callFailed .write index e.cause)) := by
  unfold writeReply at hw
  simp only [play, report, hw]
  rfl

theorem play_of_read_error {e : AdapterError} (hw : (b.writeReply adapter).answer = .ok ())
    (hr : (b.readReply adapter).answer = .error e) :
    b.play adapter index = (.adapterError index b.generator.next.1 .read e,
      (b.readBack adapter index).report (.callFailed .read index e.cause)) := by
  unfold readReply at hr
  unfold writeReply at hw hr
  simp only [play, report, absorb, hw, hr]
  rfl

theorem play_of_equivalent {o : V} (hw : (b.writeReply adapter).answer = .ok ())
    (hr : (b.readReply adapter).answer = .ok o) (ho : b.generator.domain.equivalent b.generator.next.1 o = true) :
    b.play adapter index = (.pass index b.generator.next.1 o, b.readBack adapter index) := by
  have hd : b.generator.next.2.domain = b.generator.domain := rfl
  unfold readReply at hr
  unfold writeReply at hw hr
  simp only [play, report, absorb, hw, hr, hd, ho, if_true]
  rfl

theorem play_of_not_equivalent {o : V} (hw : (b.writeReply adapter).answer = .ok ())
    (hr : (b.readReply adapter).answer = .ok o) (ho : b.generator.domain.equivalent b.generator.next.1 o = false) :
    b.play adapter index = (.mismatch index b.generator.next.1 o,
      (b.readBack adapter index).report (.mismatched index b.generator.next.1 o)) := by
  have hd : b.generator.next.2.domain = b.generator.domain := rfl
  unfold readReply at hr
  unfold writeReply at hw hr
  simp only [play, report, absorb, hw, hr, hd, ho, Bool.false_eq_true, if_false]
  rfl

variable (adapter b)

/-- The four ways of a round: the write fails, the read fails, the value read counts as the one written, or not. -/
theorem exchange_cases :
    (∃ e, (b.writeReply adapter).answer = .error e) ∨
    (∃ e, (b.writeReply adapter).answer = .ok () ∧ (b.readReply adapter).answer = .error e) ∨
    (∃ o, (b.writeReply adapter).answer = .ok () ∧ (b.readReply adapter).answer = .ok o ∧
      b.generator.domain.equivalent b.generator.next.1 o = true) ∨
    (∃ o, (b.writeReply adapter).answer = .ok () ∧ (b.readReply adapter).answer = .ok o ∧
      b.generator.domain.equivalent b.generator.next.1 o = false) := by
  cases hw : (b.writeReply adapter).answer with
  | error e => exact .inl ⟨e, rfl⟩
  | ok u =>
    cases hr : (b.readReply adapter).answer with
    | error e => exact .inr (.inl ⟨e, rfl, rfl⟩)
    | ok o =>
      cases ho : b.generator.domain.equivalent b.generator.next.1 o with
      | true => exact .inr (.inr (.inl ⟨o, rfl, rfl, ho⟩))
      | false => exact .inr (.inr (.inr ⟨o, rfl, rfl, ho⟩))

/-- A round has the index at which it is played, writes the next value, and takes just this value from the generator. -/
theorem play_draws :
    (b.play adapter index).1.index = index ∧ (b.play adapter index).1.input = b.generator.next.1 ∧
      (b.play adapter index).2.generator = b.generator.next.2 := by
  rcases b.exchange_cases adapter with ⟨e, hw⟩ | ⟨e, hw, hr⟩ | ⟨o, hw, hr, ho⟩ | ⟨o, hw, hr, ho⟩
  · rw [play_of_write_error index hw]; exact ⟨rfl, rfl, rfl⟩
  · rw [play_of_read_error index hw hr]; exact ⟨rfl, rfl, rfl⟩
  · rw [play_of_equivalent index hw hr ho]; exact ⟨rfl, rfl, rfl⟩
  · rw [play_of_not_equivalent index hw hr ho]; exact ⟨rfl, rfl, rfl⟩

/-- The bench with an empty log. -/
def quiet : Bench σ V := { b with log := #[] }

/-- Benches that are equal but for their logs. -/
theorem quiet_eq_iff {b b' : Bench σ V} :
    b.quiet = b'.quiet ↔ b.generator = b'.generator ∧ b.adapter = b'.adapter ∧ b.signals = b'.signals := by
  simp [quiet]

/-- **A round does not read the log**: it is the round of the same bench with an empty log, and adds to the log what
that round logs. -/
theorem play_eq_quiet :
    b.play adapter index = ((b.quiet.play adapter index).1,
      { (b.quiet.play adapter index).2 with log := b.log ++ (b.quiet.play adapter index).2.log }) := by
  rcases b.exchange_cases adapter with ⟨e, hw⟩ | ⟨e, hw, hr⟩ | ⟨o, hw, hr, ho⟩ | ⟨o, hw, hr, ho⟩
  · rw [play_of_write_error index hw, play_of_write_error (b := b.quiet) index hw]
    simp [written, report, absorb, quiet, writeReply]
  · rw [play_of_read_error index hw hr, play_of_read_error (b := b.quiet) index hw hr]
    simp [readBack, written, report, absorb, quiet, writeReply, readReply]
  · rw [play_of_equivalent index hw hr ho, play_of_equivalent (b := b.quiet) index hw hr ho]
    simp [readBack, written, report, absorb, quiet, writeReply, readReply]
  · rw [play_of_not_equivalent index hw hr ho, play_of_not_equivalent (b := b.quiet) index hw hr ho]
    simp [readBack, written, report, absorb, quiet, writeReply, readReply]

/-- The round and what it changes do not depend on what was logged before. -/
theorem play_congr_quiet {b b' : Bench σ V} (h : b.quiet = b'.quiet) :
    (b.play adapter index).1 = (b'.play adapter index).1 ∧
      (b.play adapter index).2.quiet = (b'.play adapter index).2.quiet := by
  rw [play_eq_quiet adapter b, play_eq_quiet adapter b', h]
  exact ⟨rfl, rfl⟩

end Bench

/-! ## Round after round -/

/-- What a generator is made of. -/
theorem Generator.eq_of_new {domain : Domain V} {seed : Seed} {g : Generator V}
    (h : Generator.new domain seed = .ok g) :
    ∃ sampler, domain.sampler = .ok sampler ∧ g = ⟨domain, sampler, seed, .start (.ofSeed seed.value)⟩ := by
  rw [Generator.new] at h
  cases hsampler : domain.sampler with
  | error err =>
    rw [hsampler] at h
    cases h
  | ok sampler =>
    rw [hsampler] at h
    cases h
    exact ⟨sampler, rfl, rfl⟩

/-- A generator is one of the domain that it was made for. -/
theorem Generator.domain_of_new {domain : Domain V} {seed : Seed} {g : Generator V}
    (h : Generator.new domain seed = .ok g) : g.domain = domain := by
  obtain ⟨sampler, -, rfl⟩ := Generator.eq_of_new h
  rfl

/-- A generator knows the seed that it was made from. -/
theorem Generator.seed_of_new {domain : Domain V} {seed : Seed} {g : Generator V}
    (h : Generator.new domain seed = .ok g) : g.seed = seed := by
  obtain ⟨sampler, -, rfl⟩ := Generator.eq_of_new h
  rfl

/-- One value later is the same as one value more. -/
theorem Generator.drop_succ (g : Generator V) : ∀ n, g.drop (n + 1) = (g.drop n).next.2
  | 0 => rfl
  | n + 1 => Generator.drop_succ g.next.2 n

/-- A generator keeps its domain. -/
theorem Generator.drop_domain (g : Generator V) : ∀ n, (g.drop n).domain = g.domain
  | 0 => rfl
  | n + 1 => Generator.drop_domain g.next.2 n

/-- The value that a generator gives after `n` others. -/
def Generator.valueAt (g : Generator V) (n : Nat) : V := (g.drop n).next.1

namespace Bench

variable (adapter : Adapter σ V) (b : Bench σ V)

/-- The bench when `n` rounds are played one after the other, whatever may ask for a stop. -/
def after : Nat → Bench σ V
  | 0 => b
  | n + 1 => ((after n).play adapter (.ofNat n)).2

/-- The round that comes after `n` others. -/
def roundAt (n : Nat) : Round V := ((b.after adapter n).play adapter (.ofNat n)).1

/-- The first `n` rounds. -/
def firstRounds (n : Nat) : List (Round V) := (List.range n).map (b.roundAt adapter)

theorem firstRounds_succ (n : Nat) :
    b.firstRounds adapter (n + 1) = b.firstRounds adapter n ++ [b.roundAt adapter n] := by
  simp only [firstRounds, List.range_succ, List.map_append, List.map_cons, List.map_nil]

theorem length_firstRounds (n : Nat) : (b.firstRounds adapter n).length = n := by
  rw [firstRounds, List.length_map, List.length_range]

/-- After `n` rounds the generator has given `n` values. -/
theorem after_generator : ∀ n, (b.after adapter n).generator = b.generator.drop n
  | 0 => rfl
  | n + 1 => by
    rw [after, ((b.after adapter n).play_draws adapter _).2.2, after_generator n, Generator.drop_succ]

/-- The domain stays the same from round to round. -/
theorem after_domain (n : Nat) : (b.after adapter n).generator.domain = b.generator.domain := by
  rw [after_generator, Generator.drop_domain]

/-- A round writes the value at its place. -/
theorem roundAt_input (n : Nat) : (b.roundAt adapter n).input = b.generator.valueAt n := by
  rw [roundAt, ((b.after adapter n).play_draws adapter _).2.1, after_generator, Generator.valueAt]

/-- The course does not depend on what was logged before it. -/
theorem after_congr_quiet {b b' : Bench σ V} (h : b.quiet = b'.quiet) :
    ∀ n, (b.after adapter n).quiet = (b'.after adapter n).quiet
  | 0 => h
  | n + 1 => (play_congr_quiet adapter _ (after_congr_quiet h n)).2

theorem roundAt_congr_quiet {b b' : Bench σ V} (h : b.quiet = b'.quiet) (n : Nat) :
    b.roundAt adapter n = b'.roundAt adapter n :=
  (play_congr_quiet adapter _ (after_congr_quiet adapter h n)).1

theorem firstRounds_congr_quiet {b b' : Bench σ V} (h : b.quiet = b'.quiet) (n : Nat) :
    b.firstRounds adapter n = b'.firstRounds adapter n :=
  List.map_congr_left fun i _ => roundAt_congr_quiet adapter h i

end Bench

/-! ## Recording -/

namespace RunResult

/-- Adds rounds one after the other. -/
def recordAll (r : RunResult V) (rounds : List (Round V)) : RunResult V := rounds.foldl record r

/-- Whether a retention keeps a round. -/
def keeps (retention : Retention) (round : Round V) : Bool := retention = .all ∨ !round.isPass

theorem recordAll_append_singleton (r : RunResult V) (rounds : List (Round V)) (round : Round V) :
    r.recordAll (rounds ++ [round]) = (r.recordAll rounds).record round := by
  rw [recordAll, List.foldl_append]
  rfl

/-- Recording changes neither what a run was asked for nor how it ended. -/
theorem recordAll_frame (r : RunResult V) (rounds : List (Round V)) :
    (r.recordAll rounds).seed = r.seed ∧ (r.recordAll rounds).domain = r.domain ∧
      (r.recordAll rounds).roundsRequested = r.roundsRequested ∧ (r.recordAll rounds).retention = r.retention ∧
      (r.recordAll rounds).cancelled = r.cancelled ∧ (r.recordAll rounds).finished = r.finished := by
  induction rounds generalizing r with
  | nil => exact ⟨rfl, rfl, rfl, rfl, rfl, rfl⟩
  | cons round rounds ih => exact ih (r.record round)

/-- Every recorded round is counted. -/
theorem roundsCompleted_recordAll (r : RunResult V) (rounds : List (Round V)) :
    (r.recordAll rounds).roundsCompleted = r.roundsCompleted + UInt64.ofNat rounds.length := by
  induction rounds generalizing r with
  | nil => simp [recordAll]
  | cons round rounds ih =>
    have h := ih (r.record round)
    rw [recordAll, List.foldl_cons, ← recordAll, h, List.length_cons, Nat.add_comm rounds.length 1, UInt64.ofNat_add]
    simp only [record]
    rw [UInt64.add_assoc]
    rfl

/-- The kept rounds are those that the retention keeps, in order. -/
theorem rounds_recordAll (r : RunResult V) (rounds : List (Round V)) :
    (r.recordAll rounds).rounds.toList = r.rounds.toList ++ rounds.filter (keeps r.retention) := by
  induction rounds generalizing r with
  | nil => simp [recordAll]
  | cons round rounds ih =>
    have h := ih (r.record round)
    rw [recordAll, List.foldl_cons, ← recordAll, h, List.filter_cons]
    have hk : keeps r.retention round = true ↔ r.retention = .all ∨ !round.isPass := by simp [keeps]
    simp only [record]
    by_cases hkeep : r.retention = .all ∨ !round.isPass
    · rw [if_pos hkeep, if_pos (hk.mpr hkeep)]
      simp
    · rw [if_neg hkeep, if_neg (fun h => hkeep (hk.mp h))]

end RunResult

end Readback
