import Readback.Proofs.Program.Exit

/-!
# Interrupted commands

An interrupt raises the signal of a run command, at any moment from the end of the setup to the end of the process.

- a command whose calls no interrupt disturbs runs as if it had no signal (`Ready.play_undisturbed`);
- **`interrupt_exit`**: an interrupt that arrives when the engine has looked at the signal for the first time either
  changes nothing or cuts the run off, and then the exit status says so. One that arrives before that look makes a
  command that nothing is wrong with exit like one that could not be set up.
-/

namespace Readback

theorem Target.silent_adapter {σ : Type} (net : Http.Network σ) (target : Target) : (target.adapter net).Silent := by
  cases target with
  | memory =>
    refine ⟨fun v s => rfl, fun s => ?_⟩
    cases hcell : s.cell <;> simp only [Target.adapter, hcell] <;> rfl
  | http base => exact ⟨fun v s => rfl, fun s => rfl⟩

namespace Program

open CommandLine (RunOptions)
open Http (Network)

variable {σ : Type} {o : RunOptions} {net : Network σ} {fresh seed : Seed} {s s' : σ} {target : Target}
  {interrupts : List Moment} {generator : Generator Int64}

/-! ## The engine of an interrupted command -/

/-- The bench of a command without a watch. -/
def unwatched (o : RunOptions) (generator : Generator Int64) (s : σ) : Bench (Injector × Site σ) Int64 where
  generator := generator
  adapter := (injector o.dropWrite, { network := s })
  signals := .none

/-- An observer cannot tell a bench with a watch from one without, if no signal is raised yet. -/
theorem unwatched_indistinct (observer : Observer) (o : RunOptions) (hquiet : .beforeRun ∉ interrupts)
    (generator : Generator Int64) (s : σ) :
    (unwatched o generator s).Indistinct observer (fun s t => t.1.Tracks interrupts ∧ t.2 = s)
      (opening o interrupts generator s) where
  generator := rfl
  adapter := ⟨Watch.tracks_start interrupts, rfl⟩
  signals signal _ := by rw [opening, initialSignals_of_not_mem hquiet]; rfl
  log _ := rfl

/-- **A command that is not interrupted at a call runs as if it had no signal.** -/
theorem Ready.play_undisturbed (h : Ready o net fresh s seed target s') (interrupts : List Moment)
    (hnew : Generator.new o.bounds.domain seed = .ok generator) (hone : interrupts.length ≤ 1)
    (hquiet : .beforeRun ∉ interrupts) (hcalls : ∀ call, .duringCall call ∉ interrupts) :
    (play .direct o net target seed interrupts s').result =
      ((Engine.mk o.config).drive none (target.adapter net).faulty (unwatched o generator s')).1 := by
  obtain ⟨generator', hnew', hplay⟩ := h.play_eq
  obtain rfl := Except.ok.inj (hnew.symm.trans hnew')
  have hsilent := (target.silent_adapter net).faulty
  have hunraised : Engine.stopRequested (some interruptSignal) (unwatched o generator s').signals = false := rfl
  -- The watch does not show, and behind it nobody raises the signal.
  rw [hplay, ← Engine.drive_of_silent ⟨o.config⟩ hsilent hunraised]
  exact ((Engine.mk o.config).drive_indistinct (o := .full) (fun _ _ => trivial)
    ((target.adapter net).faulty.indistinct_watched interruptSignal hone (.inr hcalls))
    (unwatched_indistinct .full o hquiet generator s')).1

/-- **An interrupt changes nothing, or cuts the run off**, if it arrives after the first look at the signal. -/
theorem Ready.play_interrupted (h : Ready o net fresh s seed target s') (interrupts : List Moment)
    (hone : interrupts.length ≤ 1) (hquiet : .beforeRun ∉ interrupts) :
    ∃ whole r, (play .direct o net target seed [] s').result = .ok whole ∧ whole.cancelled = false ∧
      (play .direct o net target seed interrupts s').result = .ok r ∧ (r = whole ∨ r.CutFrom whole) := by
  obtain ⟨generator, hnew, hplay⟩ := h.play_eq
  obtain ⟨whole, r, hwhole, hcancelled, hr, hcut⟩ := Engine.drive_curtails ⟨o.config⟩ (some interruptSignal)
    ((target.adapter net).faulty.indistinct_watched interruptSignal hone (.inl rfl))
    (unwatched_indistinct .blind o hquiet generator s') h.rounds (stopRequested_opening hquiet generator s')
  refine ⟨whole, r, ?_, hcancelled, ?_, hcut⟩
  · exact (h.play_undisturbed [] hnew (Nat.zero_le 1) nofun nofun).trans hwhole
  · rw [hplay]
    exact hr

/-- If the signal is raised before the first look at it, the engine refuses to run. -/
theorem Ready.play_refused (h : Ready o net fresh s seed target s') (hbefore : .beforeRun ∈ interrupts) :
    (play .direct o net target seed interrupts s').result = .error .staleSignal := by
  obtain ⟨generator, hnew, hplay⟩ := h.play_eq
  have hraised : Engine.stopRequested (some interruptSignal) (opening o interrupts generator s').signals = true := by
    refine (Signals.isRaised_raiseAll _ _ _).mpr (.inl ?_)
    exact List.mem_replicate.mpr ⟨(List.count_pos_iff.mpr hbefore).ne', rfl⟩
  rw [hplay, Engine.drive_of_isRaised (Config.validate_of_one_le h.rounds) hraised]

/-! ## The exit status -/

theorem exitCode_of_cutFrom {whole r : RunResult Int64} (hwhole : whole.cancelled = false)
    (h : r = whole ∨ r.CutFrom whole) :
    (RunStatus.ofResult r).exitCode =
      if r.roundsCompleted < whole.roundsCompleted then 130 else (RunStatus.ofResult whole).exitCode := by
  rcases h with rfl | hcut
  · rw [if_neg (UInt64.lt_irrefl _)]
  · rw [if_pos hcut.completed_lt, RunStatus.exitCode_ofResult, if_pos hcut.cancelled]

theorem exitCode_of_not_cancelled {r : RunResult Int64} (h : r.cancelled = false) :
    (RunStatus.ofResult r).exitCode = 0 ∨ (RunStatus.ofResult r).exitCode = 1 := by
  rw [RunStatus.exitCode_ofResult, h, if_neg Bool.false_ne_true]
  split
  · exact .inl rfl
  · exact .inr rfl

/-- **What an interrupt does to the exit status** of a command that nothing is wrong with. Let `whole` be the result
without an interrupt.

- An interrupt at any moment after the engine has looked at the signal for the first time leaves the result as it is or
  cuts the run off. The status is 130 if rounds were lost, and otherwise that of the command without an interrupt, which
  is 0 or 1.
- An interrupt when the run is over leaves the result as it is.
- An interrupt before that look makes the engine refuse to run, and the status is that of a command that could not be
  set up. -/
theorem interrupt_exit (h : Ready o net fresh s seed target s') :
    ∃ whole, (execute o net fresh [] s).fate = .reported whole ∧
      ((execute o net fresh [] s).exit = 0 ∨ (execute o net fresh [] s).exit = 1) ∧
      (∀ moment, moment ≠ .beforeRun →
        ∃ r, (execute o net fresh [moment] s).fate = .reported r ∧ (r = whole ∨ r.CutFrom whole) ∧
          (execute o net fresh [moment] s).exit =
            if r.roundsCompleted < whole.roundsCompleted then 130 else (execute o net fresh [] s).exit) ∧
      (∀ moment, moment = .beforeReport ∨ moment = .afterReport →
        (execute o net fresh [moment] s).fate = .reported whole) ∧
      (execute o net fresh [.beforeRun] s).exit = 2 := by
  obtain ⟨whole, -, hwhole, hcancelled, -, -⟩ := h.play_interrupted [] (Nat.zero_le 1) nofun
  obtain ⟨hfate, hexit⟩ := h.exit_of_ok (arrivals_lt_two [] (Nat.zero_le 1)) hwhole
  rw [hexit]
  refine ⟨whole, hfate, exitCode_of_not_cancelled hcancelled, fun moment hmoment => ?_, fun moment hmoment => ?_, ?_⟩
  · have hquiet : .beforeRun ∉ [moment] := fun hmem => hmoment (List.mem_singleton.mp hmem).symm
    obtain ⟨whole', r, hwhole', -, hr, hcut⟩ := h.play_interrupted [moment] (Nat.le_refl 1) hquiet
    obtain rfl := Except.ok.inj (hwhole.symm.trans hwhole')
    obtain ⟨hreported, hstatus⟩ := h.exit_of_ok (arrivals_lt_two [moment] (Nat.le_refl 1)) hr
    exact ⟨r, hreported, hcut, hstatus.trans (exitCode_of_cutFrom hcancelled hcut)⟩
  · obtain ⟨generator, hnew, -⟩ := h.play_eq
    have hquiet : .beforeRun ∉ [moment] := by rcases hmoment with rfl | rfl <;> decide
    have hcalls : ∀ call, .duringCall call ∉ [moment] := by rcases hmoment with rfl | rfl <;> simp
    have hsame : (play .direct o net target seed [moment] s').result = .ok whole := by
      rw [h.play_undisturbed [moment] hnew (Nat.le_refl 1) hquiet hcalls, ← hwhole,
        h.play_undisturbed [] hnew (Nat.zero_le 1) nofun nofun]
    exact (h.exit_of_ok (arrivals_lt_two [moment] (Nat.le_refl 1)) hsame).1
  · have hfate := h.fate_of_lt_two (arrivals_lt_two [.beforeRun] (Nat.le_refl 1))
    rw [h.play_refused (List.mem_singleton.mpr rfl)] at hfate
    rw [Execution.exit, hfate]
    rfl

/-- An interrupt in the course of the first read keeps the second round from being played. -/
theorem interrupt_exit_first_read :
    ∃ whole r, (execute wideOptions .unreachable ⟨1⟩ [] ()).fate = .reported whole ∧
      (execute wideOptions .unreachable ⟨1⟩ [.duringCall 1] ()).fate = .reported r ∧
      (execute wideOptions .unreachable ⟨1⟩ [.duringCall 1] ()).exit = 130 ∧ r.CutFrom whole := by
  obtain ⟨whole, hwhole, hexit, hmoments, -⟩ := interrupt_exit ready_wide
  obtain ⟨r, hr, hcut, hstatus⟩ := hmoments (.duringCall 1) nofun
  have hinterrupted : (execute wideOptions .unreachable ⟨1⟩ [.duringCall 1] ()).exit = 130 := by decide +kernel
  refine ⟨whole, r, hwhole, hr, hinterrupted, hcut.resolve_left ?_⟩
  rintro rfl
  rw [if_neg (UInt64.lt_irrefl _), hinterrupted] at hstatus
  rw [← hstatus] at hexit
  exact absurd hexit (by decide)

/-- An interrupt between the setup and the first look at the signal: nothing is wrong with the command, and yet it exits
like one that could not be set up. -/
theorem interrupt_before_look_exits_two :
    Ready wideOptions Network.unreachable ⟨1⟩ () ⟨1⟩ .memory () ∧
      (execute wideOptions .unreachable ⟨1⟩ [.beforeRun] ()).exit = 2 :=
  ⟨ready_wide, rfl⟩

end Program

end Readback
