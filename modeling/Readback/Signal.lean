/-!
# Stop signals

A stop signal is a handle to a flag that anyone who holds it can raise; all copies of a handle mean the same flag. A
flag once raised stays raised, so the state of all flags is the list of those raised so far.
-/

namespace Readback

/-- A handle to a flag. -/
structure StopSignal where
  id : Nat
  deriving DecidableEq, Repr

/-- The signals raised so far. -/
structure Signals where
  raised : List StopSignal
  deriving Repr

namespace Signals

/-- No signal is raised. -/
def none : Signals := ⟨[]⟩

/-- Whether a signal is raised. -/
def isRaised (s : Signals) (signal : StopSignal) : Bool := s.raised.contains signal

/-- Raises a signal. -/
def raise (s : Signals) (signal : StopSignal) : Signals := if s.isRaised signal then s else ⟨signal :: s.raised⟩

/-- Raises several signals. -/
def raiseAll (s : Signals) (signals : List StopSignal) : Signals := signals.foldl raise s

/-- After raising a signal, that one is raised, and the others are as before. -/
theorem isRaised_raise (s : Signals) (signal other : StopSignal) :
    (s.raise signal).isRaised other ↔ other = signal ∨ s.isRaised other := by
  unfold raise
  split
  · next h => exact ⟨.inr, fun hor => hor.elim (fun heq => heq ▸ h) id⟩
  · simp [isRaised]

/-- After raising several signals, these are raised, and the others are as before. -/
theorem isRaised_raiseAll (s : Signals) (signals : List StopSignal) (other : StopSignal) :
    (s.raiseAll signals).isRaised other ↔ other ∈ signals ∨ s.isRaised other := by
  induction signals generalizing s with
  | nil => simp [raiseAll]
  | cons signal signals ih =>
    rw [raiseAll, List.foldl_cons, ← raiseAll, ih, isRaised_raise, List.mem_cons]
    grind

end Signals

end Readback
