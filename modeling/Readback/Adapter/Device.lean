import Readback.Adapter.Faulty

/-!
# Devices

Adapters for integers that are put together at will: a memory cell, a cell that shows values one write late, a cell that
follows a script, and wrappers that inject faults, raise a stop signal at a chosen call, or shift what is read. A device
carries its own state.
-/

namespace Readback

/-- What a scripted cell does at a call. -/
inductive Cue where
  /-- What a cell would do. -/
  | proceed
  /-- The call fails. -/
  | fail (cause : String)
  /-- A read returns this value, whatever is stored. -/
  | answer (v : Int64)
  deriving DecidableEq, Repr

/-- An adapter for integers with its state. -/
inductive Device where
  /-- A memory cell. -/
  | memory (value : Option Int64)
  /-- A cell that shows a value only after the next write. -/
  | lagging (current pending : Option Int64)
  /-- A cell whose calls follow a script for as long as it lasts. -/
  | scripted (writeCues readCues : List Cue) (writes reads : Nat) (value : Option Int64)
  /-- A device behind an injector of faults. -/
  | faulty (injector : Injector) (inner : Device)
  /-- A device that raises a signal just before the call of that stage and number. -/
  | stopper (signal : StopSignal) (stage : Stage) (call : Nat) (writes reads : Nat) (inner : Device)
  /-- A device whose values are read with `delta` added, modulo `2 ^ 64`. -/
  | offset (delta : Int64) (inner : Device)
  deriving Repr

namespace Device

/-- An empty memory cell. -/
def empty : Device := .memory none

/-- Stores a value. -/
def write (v : Int64) : Device → Reply Device Unit
  | .memory cell => ((memoryCell Int64).write v cell).within .memory
  | .lagging _ pending => .ok () (.lagging pending (some v))
  | .scripted writeCues readCues writes reads value =>
    match writeCues[writes]? with
    | some (.fail cause) => .fail cause (.scripted writeCues readCues (writes + 1) reads value)
    | _ => .ok () (.scripted writeCues readCues (writes + 1) reads (some v))
  | .faulty injector inner => (injector.write inner fun _ => inner.write v).within fun (i, d) => .faulty i d
  | .stopper signal stage call writes reads inner =>
    let r := (inner.write v).within (.stopper signal stage call (writes + 1) reads)
    if stage = .write ∧ writes = call then { r with raises := signal :: r.raises } else r
  | .offset delta inner => (inner.write v).within (.offset delta)

/-- Reads the stored value back. -/
def read : Device → Reply Device Int64
  | .memory cell => ((memoryCell Int64).read cell).within .memory
  | .lagging current pending =>
    match current with
    | some v => .ok v (.lagging current pending)
    | none => .fail "value not yet visible" (.lagging current pending)
  | .scripted writeCues readCues writes reads value =>
    let next := Device.scripted writeCues readCues writes (reads + 1) value
    match readCues[reads]?, value with
    | some (.fail cause), _ => .fail cause next
    | some (.answer v), _ => .ok v next
    | _, some v => .ok v next
    | _, none => .fail "script: nothing written" next
  | .faulty injector inner => (injector.read inner fun _ => inner.read).within fun (i, d) => .faulty i d
  | .stopper signal stage call writes reads inner =>
    let r := inner.read.within (.stopper signal stage call writes (reads + 1))
    if stage = .read ∧ reads = call then { r with raises := signal :: r.raises } else r
  | .offset delta inner =>
    let r := inner.read.within (.offset delta)
    { r with answer := r.answer.map (· + delta) }

/-- The device as an adapter. -/
def adapter : Adapter Device Int64 := ⟨write, read⟩

/-- Adds a fault to a faulty device; others stay as they are. -/
def addFault (fault : Fault) : Device → Device
  | .faulty injector inner => .faulty (injector.add fault) inner
  | d => d

/-- What a faulty device wraps; others stay as they are. -/
def unwrap : Device → Device
  | .faulty _ inner => inner
  | d => d

end Device

end Readback
