import Readback.Run.Config
import Readback.Run.Round
import Readback.Seed

/-!
# Results

What a run leaves behind: counters over every round played, the rounds that were kept, and whether a stop cut it short.
The verdict depends on the counters alone.
-/

namespace Readback

/-- The overall judgement of a run. -/
inductive Verdict where
  | pass
  | fail
  deriving DecidableEq, Repr

/-- The verdict in reports. -/
def Verdict.text : Verdict → String
  | .pass => "PASS"
  | .fail => "FAIL"

/-- How many rounds ended in each way, kept or not. -/
structure Tally where
  passed : UInt64 := 0
  mismatched : UInt64 := 0
  adapterErrors : UInt64 := 0
  deriving DecidableEq, Repr

namespace Tally

/-- The rounds that did not pass. -/
def failed (t : Tally) : UInt64 := t.mismatched + t.adapterErrors

/-- Counts one more round. -/
def count (t : Tally) : Outcome → Tally
  | .pass => { t with passed := t.passed + 1 }
  | .mismatch => { t with mismatched := t.mismatched + 1 }
  | .adapterError _ _ => { t with adapterErrors := t.adapterErrors + 1 }

end Tally

/-- All that is known about a run. -/
structure RunResult (V : Type) where
  seed : Seed
  /-- The label of the domain. -/
  domain : String
  roundsRequested : UInt64
  roundsCompleted : UInt64 := 0
  retention : Retention
  /-- The rounds that were kept, in order. -/
  rounds : Array (Round V) := #[]
  tally : Tally := {}
  /-- Whether a stop signal ended the run before its rounds were played. -/
  cancelled : Bool := false
  /-- Whether the run came to its end. -/
  finished : Bool := false
  deriving Repr

namespace RunResult

variable {V : Type}

/-- Adds a round: it is counted, and kept unless it passed and only failures are kept. -/
def record (r : RunResult V) (round : Round V) : RunResult V :=
  { r with
    tally := r.tally.count round.outcome
    roundsCompleted := r.roundsCompleted + 1
    rounds := if r.retention = .all ∨ !round.isPass then r.rounds.push round else r.rounds }

/-- A run passes unless a round was counted that did not. -/
def verdict (r : RunResult V) : Verdict := if r.tally.failed = 0 then .pass else .fail

/-- Whether the verdict is a pass. -/
def isPass (r : RunResult V) : Bool := r.verdict = .pass

/-- The kept rounds that did not pass. -/
def failures (r : RunResult V) : List (Round V) := r.rounds.toList.filter (!·.isPass)

/-- The first kept round that did not pass. -/
def firstFailure? (r : RunResult V) : Option (Round V) := r.rounds.toList.find? (!·.isPass)

end RunResult

/-- What a finished run means for the one who started it. -/
inductive RunStatus where
  | pass
  | fail
  | interrupted
  deriving DecidableEq, Repr

namespace RunStatus

/-- A run that was cut short is neither a pass nor a failure. -/
def ofResult {V : Type} (r : RunResult V) : RunStatus :=
  if r.cancelled then .interrupted else if r.isPass then .pass else .fail

/-- The exit status of the process. -/
def exitCode : RunStatus → UInt8
  | .pass => 0
  | .fail => 1
  | .interrupted => 130

/-- The status in reports. -/
def text : RunStatus → String
  | .pass => "pass"
  | .fail => "fail"
  | .interrupted => "interrupted"

end RunStatus

end Readback
