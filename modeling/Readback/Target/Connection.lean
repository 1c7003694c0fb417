import Readback.Target.Basic
import Readback.Target.Http

/-!
# Connections

From a target to the adapter that drives it. The memory cell is always at hand; a server is asked first whether it is
up.
-/

namespace Readback

/-- What targets keep between calls: the memory cell, and the network with all who answer there. -/
structure Site (σ : Type) where
  cell : Option Int64 := none
  network : σ

namespace Target

open Http (Network Causes)

variable {σ : Type}

/-- Finds out whether a target is up, and what is logged about it. -/
def connect (net : Network σ) : Target → σ → Except Causes (List Log.Line) × σ
  | .memory, s => (.ok [], s)
  | .http base, s =>
    let (answer, s) := HttpTarget.connect net base s
    (answer.map fun _ => [HttpTarget.connectedNote base], s)

/-- The adapter of a target. -/
def adapter (net : Network σ) : Target → Adapter (Site σ) Int64
  | .memory =>
    { write := fun v s => ((memoryCell Int64).write v s.cell).within fun cell => { s with cell }
      read := fun s => ((memoryCell Int64).read s.cell).within fun cell => { s with cell } }
  | .http base =>
    { write := fun v s => ((HttpTarget.adapter net base).write v s.network).within fun network => { s with network }
      read := fun s => ((HttpTarget.adapter net base).read s.network).within fun network => { s with network } }

end Target

end Readback
