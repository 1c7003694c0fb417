import Readback.Adapter.Basic

/-!
# Interrupts

A user can interrupt a run command that is set up. The first interrupt raises the run's stop signal, so that the round
in progress is completed and no further one starts. The second ends the process at once.

A run looks at its signal before it starts and ahead of every round but the first, and nowhere else. So the time that it
takes falls into stretches, one for each call: an interrupt between a call and what the run does next, be it a look or
another call, is the same as one in the course of that call, and an interrupt between a look and the write behind it is
the same as one in the course of that write.
-/

namespace Readback

/-- When an interrupt arrives. -/
inductive Moment where
  /-- When everything is set up and the run has not looked at its signal yet. -/
  | beforeRun
  /-- In the course of the call of that number; writes and reads are counted together, from zero. -/
  | duringCall (call : Nat)
  /-- When the run is over and nothing is reported yet. -/
  | beforeReport
  /-- When everything is reported and the process has not ended yet. -/
  | afterReport
  deriving DecidableEq, Repr

/-- The line about an interrupt. It is written for the first one; where it would be written for the second, the process
has ended. -/
def interruptNote : Log.Line := ⟨.warn, "echoprobe", "Interrupt received, stopping after the current round", []⟩

/-- Watches the calls of a run for interrupts. -/
structure Watch where
  /-- The moments at which interrupts arrive, in any order. -/
  interrupts : List Moment
  /-- The calls made so far. -/
  calls : Nat := 0
  /-- How many interrupts arrived so far. -/
  received : Nat := 0
  deriving Repr

namespace Watch

variable {σ α : Type}

/-- The watch when the run is about to look at its signal for the first time. -/
def start (interrupts : List Moment) : Watch where
  interrupts := interrupts
  received := interrupts.count .beforeRun

/-- The second interrupt has ended the process. -/
def isOver (w : Watch) : Bool := 2 ≤ w.received

/-- Passes on the reply to a call that is made in the state `s`, with the interrupts that arrive meanwhile. A process
that has ended makes no more calls. -/
def pass (w : Watch) (signal : StopSignal) (s : σ) (r : Reply σ α) : Reply (Watch × σ) α :=
  let arriving := w.interrupts.count (.duringCall w.calls)
  if w.isOver then .fail "" (w, s)
  else
    { answer := r.answer
      state := ({ w with calls := w.calls + 1, received := w.received + arriving }, r.state)
      raises := r.raises ++ List.replicate arriving signal
      notes := r.notes ++ List.replicate arriving interruptNote }

end Watch

/-- The adapter under a watch that raises a signal at an interrupt. -/
def Adapter.watched {σ V : Type} (inner : Adapter σ V) (signal : StopSignal) : Adapter (Watch × σ) V where
  write v s := s.1.pass signal s.2 (inner.write v s.2)
  read s := s.1.pass signal s.2 (inner.read s.2)

end Readback
