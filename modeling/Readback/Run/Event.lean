import Readback.Run.Result
import Readback.Value

/-!
# Events of a run

What happens in a run, in the order in which it happens; each event is one log line. Lines that the adapter logs itself
stand among them as notes.
-/

namespace Readback

/-- Something that happened in a run. -/
inductive Event (V : Type) where
  /-- The run starts. -/
  | started (rounds : UInt64) (domain : String) (seed : Seed)
  /-- A value is about to be written. -/
  | writing (round : UInt64) (value : V)
  /-- The write or the read of a round failed. -/
  | callFailed (stage : Stage) (round : UInt64) (cause : String)
  /-- The value read back does not count as the one written. -/
  | mismatched (round : UInt64) (expected observed : V)
  /-- A signal ends the run. -/
  | stopRequested (after : UInt64)
  /-- A failure ends the run. -/
  | stoppedAtFailure (round : UInt64)
  /-- The run is over. -/
  | finished (verdict : Verdict) (completed requested : UInt64) (tally : Tally)
  /-- The adapter logged a line. -/
  | note (line : Log.Line)
  deriving DecidableEq, Repr

namespace Event

/-- A counter in a log line. -/
def counter (n : UInt64) : String := Numeral.natText n.toNat

/-- How severe an event is. -/
def level {V : Type} : Event V → Log.Level
  | .started .. | .stopRequested .. | .stoppedAtFailure .. | .finished .. => .info
  | .writing .. => .debug
  | .callFailed .. | .mismatched .. => .warn
  | .note line => line.level

/-- An event in words. -/
def message {V : Type} : Event V → String
  | .started rounds domain seed =>
    "Starting run: " ++ counter rounds ++ " rounds over " ++ domain ++ " with seed " ++ seed.text
  | .writing .. => "writing"
  | .callFailed stage .. => stage.text ++ " failed"
  | .mismatched .. => "read-back mismatch"
  | .stopRequested after => "Stop requested, ending run after " ++ counter after ++ " rounds"
  | .stoppedAtFailure round => "Stopping at first failure (round " ++ counter round ++ ")"
  | .finished verdict completed requested tally =>
    "Run finished: " ++ verdict.text ++ " after " ++ counter completed ++ "/" ++ counter requested ++ " rounds (" ++
      counter tally.passed ++ " passed, " ++ counter tally.mismatched ++ " mismatched, " ++
      counter tally.adapterErrors ++ " adapter errors)"
  | .note line => line.message

/-- The named values of an event. -/
def fields {V : Type} [Value V] : Event V → List (String × String)
  | .writing round value => [("round", counter round), ("value", Value.text value)]
  | .callFailed _ round cause => [("round", counter round), ("cause", cause)]
  | .mismatched round expected observed =>
    [("round", counter round), ("expected", Value.text expected), ("observed", Value.text observed)]
  | .note line => line.fields
  | _ => []

/-- The part of the program that reports an event. -/
def source {V : Type} : Event V → String
  | .note line => line.source
  | _ => "echoprobe::engine"

/-- The log line of an event. -/
def line {V : Type} [Value V] (e : Event V) : Log.Line := ⟨e.level, e.source, e.message, e.fields⟩

end Event

/-- The log lines of the events that a threshold shows. -/
def logLines {V : Type} [Value V] (threshold : Log.Threshold) (events : List (Event V)) : List Log.Line :=
  (events.filter (threshold.shows ·.level)).map Event.line

end Readback
