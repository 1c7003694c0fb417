import Readback.Adapter.Faulty
import Readback.Proofs.Adapter.Calls
import Readback.Proofs.Run.Curtailment

/-!
# Adapters under a watch

What a watch adds to the calls of an adapter, and what it has received when a run is over.

- a watch has received the interrupts whose moments are past, and so it is after any number of calls (`Watch.Tracks`,
  `Tracks.pass`), hence after a run (`Engine.run_keeps`, `keeps_tracks_watched`);
- adapters that cannot be told apart cannot be told apart under a record, an injector and a watch either
  (`indistinct_traced`, `Indistinct.faulty`, `Indistinct.watched`);
- **one interrupt shows only in the signals and the log**, and one that arrives at no call not even there
  (`indistinct_watched`).
-/

namespace Readback

variable {σ τ V : Type}

/-! ## Moments -/

namespace Moment

/-- Whether a moment is past when so many calls are made. -/
def isPast (calls : Nat) : Moment → Bool
  | beforeRun => true
  | duringCall n => n < calls
  | beforeReport | afterReport => false

/-- Whether a moment comes at all, if so many calls are made. -/
def comes (calls : Nat) : Moment → Bool
  | duringCall n => n < calls
  | beforeRun | beforeReport | afterReport => true

/-- One more call, and the moments in its course are past too. -/
theorem countP_isPast_succ (moments : List Moment) (calls : Nat) :
    moments.countP (isPast (calls + 1)) = moments.countP (isPast calls) + moments.count (duringCall calls) := by
  induction moments with
  | nil => rfl
  | cons m moments ih =>
    rw [List.countP_cons, List.countP_cons, List.count_cons, ih]
    cases m with
    | duringCall n =>
      simp only [isPast, beq_iff_eq, duringCall.injEq, decide_eq_true_eq]
      split_ifs <;> omega
    | beforeRun => simp [isPast]; omega
    | beforeReport => simp [isPast]
    | afterReport => simp [isPast]

theorem countP_isPast_zero (moments : List Moment) : moments.countP (isPast 0) = moments.count beforeRun := by
  refine List.countP_congr fun m _ => ?_
  cases m <;> simp [isPast]

/-- The moments that come are past when the run is over, or come then. -/
theorem countP_comes (moments : List Moment) (calls : Nat) :
    moments.countP (comes calls) =
      moments.countP (isPast calls) + moments.count beforeReport + moments.count afterReport := by
  induction moments with
  | nil => rfl
  | cons m moments ih =>
    rw [List.countP_cons, List.countP_cons, List.count_cons, List.count_cons, ih]
    cases m <;> simp [comes, isPast] <;> omega

end Moment

/-! ## What a watch has received -/

namespace Watch

/-- The watch waits for these interrupts, and has received those whose moments are past. -/
structure Tracks (w : Watch) (moments : List Moment) : Prop where
  interrupts : w.interrupts = moments
  received : w.received = moments.countP (·.isPast w.calls)

variable {w : Watch} {interrupts : List Moment} {α : Type}

theorem tracks_start (interrupts : List Moment) : (start interrupts).Tracks interrupts :=
  ⟨rfl, (Moment.countP_isPast_zero interrupts).symm⟩

/-- **One call** leaves the watch with the interrupts whose moments are past then. -/
theorem Tracks.pass (h : w.Tracks interrupts) (signal : StopSignal) (s : σ) (r : Reply σ α) :
    (w.pass signal s r).state.1.Tracks interrupts := by
  rw [Watch.pass]
  split
  · exact h
  · refine ⟨h.interrupts, ?_⟩
    show w.received + w.interrupts.count (.duringCall w.calls) = interrupts.countP (·.isPast (w.calls + 1))
    rw [h.interrupts, h.received]
    exact (Moment.countP_isPast_succ interrupts w.calls).symm

/-- One interrupt does not end the process. -/
theorem Tracks.isOver_eq_false (h : w.Tracks interrupts) (hone : interrupts.length ≤ 1) : w.isOver = false := by
  have hle : interrupts.countP (·.isPast w.calls) ≤ interrupts.length := List.countP_le_length
  rw [isOver, h.received]
  exact decide_eq_false (by omega)

end Watch

/-- Whatever is called, the adapter's state keeps the property. -/
structure Adapter.Keeps (P : σ → Prop) (a : Adapter σ V) : Prop where
  write {s : σ} (v : V) : P s → P (a.write v s).state
  read {s : σ} : P s → P (a.read s).state

theorem Adapter.keeps_tracks_watched (a : Adapter σ V) (signal : StopSignal) (interrupts : List Moment) :
    (a.watched signal).Keeps fun s => s.1.Tracks interrupts where
  write v h := h.pass signal _ (a.write v _)
  read h := h.pass signal _ (a.read _)

/-- **What every call keeps holds after a run.** -/
theorem Engine.run_keeps {P : σ → Prop} {a : Adapter σ V} (ha : a.Keeps P) (e : Engine) (domain : Domain V)
    (seed : Seed) (stop : Option StopSignal) {s : σ} (h : P s) (signals : Signals) :
    P (e.run domain seed stop a s signals).adapter := by
  -- The adapter cannot be told apart from itself, in states with the property.
  have hself : a.Indistinct .full (fun s t => t = s ∧ P s) a := by
    constructor
    · rintro s t v ⟨rfl, hs⟩
      exact ⟨rfl, ⟨rfl, ha.write v hs⟩, fun _ _ => Iff.rfl, fun _ => rfl⟩
    · rintro s t ⟨rfl, hs⟩
      exact ⟨rfl, ⟨rfl, ha.read hs⟩, fun _ _ => Iff.rfl, fun _ => rfl⟩
  exact (e.run_indistinct domain seed (fun _ _ => trivial) hself ⟨rfl, h⟩ fun _ _ => rfl).adapter.2

/-! ## Wrapped alike -/

section Wrapped

variable {o : Observer} {R : σ → τ → Prop} {a : Adapter σ V} {a' : Adapter τ V}

/-- A record of its calls does not show in an adapter's replies. -/
theorem Adapter.indistinct_traced (a : Adapter σ V) (o : Observer) :
    a.Indistinct o (fun s t => t.2 = s) a.traced where
  write v h := by
    subst h
    exact ⟨rfl, rfl, fun _ _ => Iff.rfl, fun _ => rfl⟩
  read h := by
    subst h
    exact ⟨rfl, rfl, fun _ _ => Iff.rfl, fun _ => rfl⟩

theorem Adapter.Indistinct.faulty (h : a.Indistinct o R a') :
    a.faulty.Indistinct o (fun s t => t.1 = s.1 ∧ R s.2 t.2) a'.faulty where
  write {s t} v hst := by
    obtain ⟨hinjector, hstate⟩ := hst
    have hreply := h.write v hstate
    simp only [Adapter.faulty, Injector.write, hinjector]
    split
    · exact ⟨rfl, ⟨rfl, hstate⟩, fun _ _ => Iff.rfl, fun _ => rfl⟩
    · split
      · exact ⟨rfl, ⟨rfl, hstate⟩, fun _ _ => Iff.rfl, fun _ => rfl⟩
      · exact ⟨hreply.answer, ⟨rfl, hreply.state⟩, hreply.raises, hreply.notes⟩
  read {s t} hst := by
    obtain ⟨hinjector, hstate⟩ := hst
    have hreply := h.read hstate
    simp only [Adapter.faulty, Injector.read, hinjector]
    split
    · exact ⟨rfl, ⟨rfl, hstate⟩, fun _ _ => Iff.rfl, fun _ => rfl⟩
    · exact ⟨hreply.answer, ⟨rfl, hreply.state⟩, hreply.raises, hreply.notes⟩

/-- A watch passes on replies that cannot be told apart as such. -/
theorem Watch.pass_indistinct {α : Type} (w : Watch) (signal : StopSignal) {s : σ} {t : τ} (hstate : R s t)
    {r : Reply σ α} {r' : Reply τ α} (h : r.Indistinct o R r') :
    (w.pass signal s r).Indistinct o (fun s t => t.1 = s.1 ∧ R s.2 t.2) (w.pass signal t r') := by
  simp only [Watch.pass]
  split
  · exact ⟨rfl, ⟨rfl, hstate⟩, fun _ _ => Iff.rfl, fun _ => rfl⟩
  · refine ⟨h.answer, ⟨rfl, h.state⟩, fun other hother => ?_, fun hreads => ?_⟩
    · rw [List.mem_append, List.mem_append, h.raises other hother]
    · simp only [h.notes hreads]

theorem Adapter.Indistinct.watched (h : a.Indistinct o R a') (signal : StopSignal) :
    (a.watched signal).Indistinct o (fun s t => t.1 = s.1 ∧ R s.2 t.2) (a'.watched signal) where
  write {s t} v hst := by
    obtain ⟨hwatch, hstate⟩ := hst
    simp only [Adapter.watched, hwatch]
    exact s.1.pass_indistinct signal hstate (h.write v hstate)
  read {s t} hst := by
    obtain ⟨hwatch, hstate⟩ := hst
    simp only [Adapter.watched, hwatch]
    exact s.1.pass_indistinct signal hstate (h.read hstate)

end Wrapped

/-- **A watch with one interrupt shows only in the signals and the log**, and not even there if it arrives at no
call. -/
theorem Adapter.indistinct_watched (a : Adapter σ V) (signal : StopSignal) {o : Observer} {interrupts : List Moment}
    (hone : interrupts.length ≤ 1) (hshows : o = .blind ∨ ∀ call, .duringCall call ∉ interrupts) :
    a.Indistinct o (fun s t => t.1.Tracks interrupts ∧ t.2 = s) (a.watched signal) := by
  have hpass {α : Type} {w : Watch} (hw : w.Tracks interrupts) (s : σ) (r : Reply σ α) :
      r.Indistinct o (fun s t => t.1.Tracks interrupts ∧ t.2 = s) (w.pass signal s r) := by
    have hstate := hw.pass signal s r
    rw [Watch.pass, hw.isOver_eq_false hone, if_neg Bool.false_ne_true] at hstate ⊢
    rcases hshows with rfl | hcalls
    · exact ⟨rfl, ⟨hstate, rfl⟩, fun _ => False.elim, False.elim⟩
    · have hnone : w.interrupts.count (.duringCall w.calls) = 0 := by
        rw [hw.interrupts]
        exact List.count_eq_zero_of_not_mem (hcalls w.calls)
      simp only [hnone, List.replicate_zero, List.append_nil] at hstate ⊢
      exact ⟨rfl, ⟨hstate, rfl⟩, fun _ _ => Iff.rfl, fun _ => rfl⟩
  constructor
  · rintro s ⟨w, _⟩ v ⟨hw, rfl⟩
    exact hpass hw _ _
  · rintro s ⟨w, _⟩ ⟨hw, rfl⟩
    exact hpass hw _ _

/-! ## Adapters that raise no signal -/

theorem Adapter.Silent.faulty {a : Adapter σ V} (h : a.Silent) : a.faulty.Silent where
  write v s := by
    simp only [Adapter.faulty, Injector.write]
    split
    · rfl
    · split
      · rfl
      · exact h.write v s.2
  read s := by
    simp only [Adapter.faulty, Injector.read]
    split
    · rfl
    · exact h.read s.2

end Readback
