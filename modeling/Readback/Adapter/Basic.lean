import Readback.Error
import Readback.Log.Basic
import Readback.Signal

/-!
# Adapters

The boundary between a run and the system under test. An adapter is a state machine with two calls: one stores a value,
the other reads the stored value back, and each completes or fails. Whatever an adapter does inside (network traffic,
retries, waiting), a run sees one write and one read. A call can also raise stop signals and leave log lines.
-/

namespace Readback

/-- The two calls of an adapter, which are the stages of a round. -/
inductive Stage where
  | write
  | read
  deriving DecidableEq, Repr

/-- The stage in reports. -/
def Stage.text : Stage → String
  | .write => "write"
  | .read => "read"

/-- What a call gives back: its answer, the state after it, the signals that it raised and the lines that it logged. -/
structure Reply (σ α : Type) where
  answer : Except AdapterError α
  state : σ
  raises : List StopSignal := []
  notes : List Log.Line := []

namespace Reply

variable {σ τ α : Type}

/-- A call that completes. -/
def ok (a : α) (state : σ) : Reply σ α := { answer := .ok a, state }

/-- A call that fails. -/
def fail (cause : String) (state : σ) : Reply σ α := { answer := .error ⟨cause⟩, state }

/-- The same reply of a machine that holds this one as a part. -/
def within (r : Reply σ α) (f : σ → τ) : Reply τ α := { r with state := f r.state }

end Reply

/-- A single shared value that can be set and read back. -/
structure Adapter (σ V : Type) where
  write : V → σ → Reply σ Unit
  read : σ → Reply σ V

/-- The memory cell: it holds the last value written, if there is one. -/
def memoryCell (V : Type) : Adapter (Option V) V where
  write v _ := .ok () (some v)
  read
    | some v => .ok v (some v)
    | none => .fail "no value written" none

end Readback
