import Readback.Adapter.Device
import Readback.Domain.IntRange
import Readback.Run.Engine

/-!
# Workbenches

Engines, generators, devices and stop signals kept under names, for experiments of many steps. Devices keep their state
from one run to the next and generators their place; a name given twice stands for what it was given last. Two names of
one signal share its flag.
-/

namespace Readback

/-- Things kept under names. -/
abbrev Named (α : Type) := List (String × α)

namespace Named

variable {α : Type}

/-- The thing of that name. -/
def get? (n : Named α) (name : String) : Option α := n.lookup name

/-- Keeps a thing under a name, in place of what the name stood for. -/
def put : Named α → String → α → Named α
  | [], name, a => [(name, a)]
  | (other, b) :: rest, name, a => if other = name then (name, a) :: rest else (other, b) :: put rest name a

end Named

/-- What is at hand in an experiment. -/
structure Workbench where
  engines : Named Engine := []
  generators : Named (Generator Int64) := []
  devices : Named Device := []
  handles : Named StopSignal := []
  /-- The signals raised so far. -/
  signals : Signals := .none
  /-- How many signals were made. -/
  made : Nat := 0

namespace Workbench

/-- Makes a signal with a flag of its own. -/
def newSignal (w : Workbench) (name : String) : Workbench :=
  { w with handles := w.handles.put name ⟨w.made⟩, made := w.made + 1 }

/-- Gives a signal another name. -/
def shareSignal (w : Workbench) (signal : StopSignal) (name : String) : Workbench :=
  { w with handles := w.handles.put name signal }

/-- Raises a signal. -/
def stop (w : Workbench) (signal : StopSignal) : Workbench := { w with signals := w.signals.raise signal }

/-- Every name of a signal with its flag. -/
def flags (w : Workbench) : Named Bool := w.handles.map fun (name, signal) => (name, w.signals.isRaised signal)

/-- Takes the next `count` values of a generator. -/
def take (w : Workbench) (name : String) (g : Generator Int64) (count : Nat) : List Int64 × Workbench :=
  let (values, g) := g.take count
  (values, { w with generators := w.generators.put name g })

/-- Takes over the effects of a call to the device of that name. -/
def absorb {α : Type} (w : Workbench) (name : String) (r : Reply Device α) : Workbench :=
  { w with devices := w.devices.put name r.state, signals := w.signals.raiseAll r.raises }

/-- Takes over what a run left of the device of that name. -/
def settle (w : Workbench) (name : String) (e : Engine.Ending Device Int64) : Workbench :=
  { w with devices := w.devices.put name e.adapter, signals := e.signals }

/-- Runs against the device of that name. -/
def run (w : Workbench) (engine : Engine) (name : String) (device : Device) (domain : Domain Int64) (seed : Seed)
    (stop : Option StopSignal) : Engine.Ending Device Int64 × Workbench :=
  let ending := engine.run domain seed stop Device.adapter device w.signals
  (ending, w.settle name ending)

/-- Runs against the device of that name with the generator of that name, which moves on. -/
def runWith (w : Workbench) (engine : Engine) (name : String) (device : Device) (source : String)
    (g : Generator Int64) : Engine.Ending Device Int64 × Workbench :=
  let (ending, g) := engine.runWith g Device.adapter device w.signals
  let w := w.settle name ending
  (ending, { w with generators := w.generators.put source g })

end Workbench

end Readback
