import Readback.Error

/-!
# Configuration

How many rounds a run plays, whether it ends at the first failure, and which rounds it keeps.
-/

namespace Readback

/-- Which rounds a result keeps. -/
inductive Retention where
  /-- Every round. -/
  | all
  /-- Only the rounds that did not pass. -/
  | failuresOnly
  deriving DecidableEq, Repr

/-- The retention in reports. -/
def Retention.text : Retention → String
  | .all => "all"
  | .failuresOnly => "failures_only"

/-- The settings of a run. -/
structure Config where
  /-- The number of rounds to attempt. -/
  rounds : UInt64 := 100
  /-- Whether the first round that does not pass is the last. -/
  stopOnFirstFailure : Bool := false
  retention : Retention := .all
  deriving DecidableEq, Repr

/-- Refuses a run without rounds. -/
def Config.validate (c : Config) : Except SetupError Unit :=
  if c.rounds = 0 then .error .noRounds else .ok ()

end Readback
