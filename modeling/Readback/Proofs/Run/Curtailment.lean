import Readback.Proofs.Run.Interference
import Readback.Proofs.Run.Length

/-!
# Runs that are cut off

What a signal can do to a run that has started: end it before its time, and nothing else. The adapter raises the signal
in the course of its calls, at any of them; who is behind it does not matter.

- a run without a signal is never cancelled, and a run whose signal nobody raises is the same (`loop_of_silent`,
  `drive_of_silent`);
- **`drive_curtails`**: whenever the signal is raised after the first look at it, the run is the one without a signal,
  or it is cut off from it.
-/

namespace Readback

variable {σ τ V : Type}

/-! ## Without a signal -/

theorem Config.validate_of_one_le {c : Config} (h : 1 ≤ c.rounds) : c.validate = .ok () :=
  if_neg fun h0 => by rw [h0] at h; exact absurd h (by decide)

/-- The adapter raises no signal. -/
structure Adapter.Silent (a : Adapter σ V) : Prop where
  write (v : V) (s : σ) : (a.write v s).raises = []
  read (s : σ) : (a.read s).raises = []

theorem Bench.signals_play_of_silent {a : Adapter σ V} (ha : a.Silent) (b : Bench σ V) (index : UInt64) :
    (b.play a index).2.signals = b.signals := by
  have hwritten : (b.written a index).signals = b.signals := by
    show b.signals.raiseAll (b.writeReply a).raises = b.signals
    rw [writeReply, ha.write]
    rfl
  have hback : (b.readBack a index).signals = b.signals := by
    show (b.written a index).signals.raiseAll (b.readReply a).raises = b.signals
    rw [readReply, ha.read, hwritten]
    rfl
  rcases signals_play a b index with hflags | hflags
  · exact hflags.trans hwritten
  · exact hflags.trans hback

namespace Engine

variable {a : Adapter σ V} {stop : Option StopSignal}

theorem loop_of_silent (e : Engine) (ha : a.Silent) (left : Nat) (index : UInt64) {p : Progress σ V}
    (hstop : stopRequested stop p.bench.signals = false) : e.loop stop a left index p = e.loop none a left index p := by
  induction left generalizing index p with
  | zero => rfl
  | succ left ih =>
    have hnext : stopRequested stop (p.bench.play a index).2.signals = false := by
      rwa [Bench.signals_play_of_silent ha]
    have hnone : stopRequested none p.bench.signals = false := rfl
    simp only [loop, hstop, hnone, ih (index + 1) (p := ⟨_, _⟩) hnext]

/-- **If nobody raises the signal, a run is the one without a signal.** -/
theorem drive_of_silent (e : Engine) (ha : a.Silent) {b : Bench σ V} (hstop : stopRequested stop b.signals = false) :
    e.drive stop a b = e.drive none a b := by
  have hnone : stopRequested none b.signals = false := rfl
  simp only [drive, hstop, hnone]
  rw [loop_of_silent e ha _ _ (show stopRequested stop (b.report _).signals = false from hstop)]

/-- Without a signal the loop adds rounds to the result, at least one if there are any to play. -/
theorem loop_none_result (e : Engine) (a : Adapter σ V) (left : Nat) (index : UInt64) (p : Progress σ V) :
    ∃ rounds, (e.loop none a left index p).result = p.result.recordAll rounds ∧ rounds.length ≤ left ∧
      (0 < left → rounds ≠ []) := by
  induction left generalizing index p with
  | zero => exact ⟨[], rfl, Nat.le_refl 0, fun h => absurd h (Nat.lt_irrefl 0)⟩
  | succ left ih =>
    have hnone : stopRequested none p.bench.signals = false := rfl
    simp only [loop, hnone, Bool.false_eq_true, and_false, if_false]
    split
    · exact ⟨[(p.bench.play a index).1], rfl, by simp, by simp⟩
    · obtain ⟨rounds, hresult, hlength, -⟩ := ih (index + 1) ⟨_, p.result.record (p.bench.play a index).1⟩
      exact ⟨(p.bench.play a index).1 :: rounds, hresult, Nat.succ_le_succ hlength, fun _ => List.cons_ne_nil _ _⟩

end Engine

/-! ## Cut off -/

namespace RunResult

/-- From the same `start`, the one result has recorded only a beginning of the rounds that the other has, and is
cancelled. -/
def Curtails (left : Nat) (start whole r : RunResult V) : Prop :=
  ∃ played missed, missed ≠ [] ∧ (played ++ missed).length ≤ left ∧ whole = start.recordAll (played ++ missed) ∧
    r = { start.recordAll played with cancelled := true }

/-- The result of a run that was cut off from another: it is cancelled, and its rounds are a beginning of the others,
and not all. -/
structure CutFrom (r whole : RunResult V) : Prop where
  cancelled : r.cancelled = true
  completed_lt : r.roundsCompleted < whole.roundsCompleted
  rounds : r.rounds.toList <+: whole.rounds.toList

/-- No counter overflows, so the missing rounds show. -/
theorem Curtails.cutFrom {left : Nat} {start whole r : RunResult V} (h : Curtails left start whole r)
    (hsize : start.roundsCompleted.toNat + left < UInt64.size) :
    CutFrom { r with finished := true } { whole with finished := true } := by
  obtain ⟨played, missed, hne, hlength, rfl, rfl⟩ := h
  have hcount (rounds : List (Round V)) (hle : rounds.length ≤ left) :
      (start.recordAll rounds).roundsCompleted.toNat = start.roundsCompleted.toNat + rounds.length := by
    rw [roundsCompleted_recordAll, UInt64.toNat_add, UInt64.toNat_ofNat_of_lt' (by omega)]
    exact Nat.mod_eq_of_lt (show start.roundsCompleted.toNat + rounds.length < UInt64.size by omega)
  rw [List.length_append] at hlength
  refine ⟨rfl, ?_, ?_⟩
  · show (start.recordAll played).roundsCompleted < (start.recordAll (played ++ missed)).roundsCompleted
    have hpos := List.length_pos_of_ne_nil hne
    have hpart := hcount played (by omega)
    have hwhole := hcount (played ++ missed) (by rwa [List.length_append])
    rw [List.length_append] at hwhole
    rw [UInt64.lt_iff_toNat_lt]
    omega
  · show (start.recordAll played).rounds.toList <+: (start.recordAll (played ++ missed)).rounds.toList
    rw [rounds_recordAll, rounds_recordAll, List.filter_append, ← List.append_assoc]
    exact List.prefix_append _ _

end RunResult

namespace Engine

variable {a : Adapter σ V} {a' : Adapter τ V} {R : σ → τ → Prop}

/-- **The loop plays as without a signal, or breaks off before.** -/
theorem loop_curtails (e : Engine) (stop : Option StopSignal) (ha : a.Indistinct .blind R a') (left : Nat)
    (index : UInt64) {b : Bench σ V} {b' : Bench τ V} (r : RunResult V) (h : b.Indistinct .blind R b') :
    (e.loop stop a' left index ⟨b', r⟩).result = (e.loop none a left index ⟨b, r⟩).result ∨
      RunResult.Curtails left r (e.loop none a left index ⟨b, r⟩).result
        (e.loop stop a' left index ⟨b', r⟩).result := by
  induction left generalizing index b b' r with
  | zero => exact .inl rfl
  | succ left ih =>
    have hnone : stopRequested none b.signals = false := rfl
    by_cases hseen : 0 < index ∧ stopRequested stop b'.signals = true
    · -- All that the loop without a signal still plays is missed.
      right
      obtain ⟨missed, hresult, hlength, hne⟩ := loop_none_result e a (left + 1) index ⟨b, r⟩
      refine ⟨[], missed, hne (Nat.succ_pos left), hlength, hresult, ?_⟩
      rw [loop, if_pos hseen]
      rfl
    · -- Until the signal is seen, both play the same round.
      obtain ⟨hround, hafter⟩ := Bench.play_indistinct h ha index
      simp only [loop, if_neg hseen, hnone, Bool.false_eq_true, and_false, if_false, hround]
      split
      · exact .inl rfl
      · rcases ih (index + 1) (r.record (b.play a index).1) hafter with heq | ⟨played, missed, hne, hlen, hwhole, hr⟩
        · exact .inl heq
        · exact .inr ⟨(b.play a index).1 :: played, missed, hne, Nat.succ_le_succ hlen, hwhole, hr⟩

/-- **A run is the one without a signal, or is cut off from it**, whenever the adapter raises its signal. -/
theorem drive_curtails (e : Engine) (stop : Option StopSignal) (ha : a.Indistinct .blind R a') {b : Bench σ V}
    {b' : Bench τ V} (h : b.Indistinct .blind R b') (hrounds : 1 ≤ e.config.rounds)
    (hstop : stopRequested stop b'.signals = false) :
    ∃ whole r, (e.drive none a b).1 = .ok whole ∧ whole.cancelled = false ∧ (e.drive stop a' b').1 = .ok r ∧
      (r = whole ∨ r.CutFrom whole) := by
  have hvalid := Config.validate_of_one_le hrounds
  have hopened : (e.opened b).Indistinct .blind R (e.opened b') := ⟨h.generator, h.adapter, nofun, nofun⟩
  obtain ⟨rounds, hwhole, -, -⟩ := loop_none_result e a e.config.rounds.toNat 0 ⟨e.opened b, e.emptyResult b.generator⟩
  have hloop := loop_curtails e stop ha e.config.rounds.toNat 0 (e.emptyResult b.generator) hopened
  have hdrive : (e.drive none a b).1 =
      (finish (e.loop none a e.config.rounds.toNat 0 ⟨e.opened b, e.emptyResult b.generator⟩)).1 := by
    rw [drive, hvalid]
    rfl
  have hdrive' : (e.drive stop a' b').1 =
      (finish (e.loop stop a' e.config.rounds.toNat 0 ⟨e.opened b', e.emptyResult b.generator⟩)).1 := by
    simp only [drive, hvalid, hstop, Bool.false_eq_true, if_false]
    rw [← h.generator]
    rfl
  refine ⟨_, _, hdrive, ?_, hdrive', ?_⟩
  · show (e.loop none a e.config.rounds.toNat 0 ⟨e.opened b, e.emptyResult b.generator⟩).result.cancelled = false
    rw [hwhole]
    exact (RunResult.recordAll_frame _ _).2.2.2.2.1
  · rcases hloop with heq | hcut
    · exact .inl (by rw [heq])
    · refine .inr (hcut.cutFrom ?_)
      rw [show (e.emptyResult b.generator).roundsCompleted.toNat = 0 from rfl, Nat.zero_add]
      exact e.config.rounds.toNat_lt

end Engine

end Readback
