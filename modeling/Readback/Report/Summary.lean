import Readback.Run.Event

/-!
# Summaries

A run in one line: the verdict, the first failure if there is one, how far a cancelled run came, and the seed to replay
it with.
-/

namespace Readback

/-- What went wrong in the first failing round. -/
inductive FailureDetail where
  | mismatch (index : UInt64) (expected observed : String)
  | adapterError (index : UInt64) (expected : String) (stage : Stage) (cause : String)
  deriving DecidableEq, Repr

namespace FailureDetail

/-- The index of the failing round. -/
def index : FailureDetail → UInt64
  | .mismatch i _ _ => i
  | .adapterError i _ _ _ => i

/-- What went wrong in a round, unless it passed. -/
def ofRound? {V : Type} [Value V] (r : Round V) : Option FailureDetail :=
  match r.outcome with
  | .pass => none
  | .mismatch => some (.mismatch r.index (Value.text r.input) ((r.observed.map Value.text).getD "?"))
  | .adapterError stage cause => some (.adapterError r.index (Value.text r.input) stage cause)

end FailureDetail

/-- The summary of a run. -/
structure Summary where
  verdict : Verdict
  seed : Seed
  roundsRequested : UInt64
  roundsCompleted : UInt64
  passed : UInt64
  failed : UInt64
  cancelled : Bool
  firstFailure : Option FailureDetail
  deriving DecidableEq, Repr

namespace Summary

/-- Sums up a run. -/
def ofResult {V : Type} [Value V] (r : RunResult V) : Summary where
  verdict := r.verdict
  seed := r.seed
  roundsRequested := r.roundsRequested
  roundsCompleted := r.roundsCompleted
  passed := r.tally.passed
  failed := r.tally.failed
  cancelled := r.cancelled
  firstFailure := r.firstFailure?.bind FailureDetail.ofRound?

/-- The verdict and what it rests on. -/
def headline (s : Summary) : String :=
  match s.firstFailure with
  | none =>
    s.verdict.text ++ ": " ++ Event.counter s.passed ++ "/" ++ Event.counter s.roundsCompleted ++ " rounds passed"
  | some (.mismatch index expected observed) =>
    s.verdict.text ++ " at round " ++ Event.counter index ++ ": expected " ++ expected ++ ", observed " ++ observed
  | some (.adapterError index _ stage cause) =>
    s.verdict.text ++ " at round " ++ Event.counter index ++ ": " ++ stage.text ++ " failed: " ++ cause

/-- How far a cancelled run came. -/
def cancellation (s : Summary) : String :=
  if s.cancelled then
    " (cancelled after " ++ Event.counter s.roundsCompleted ++ "/" ++ Event.counter s.roundsRequested ++ " rounds)"
  else ""

/-- The summary in one line. -/
def text (s : Summary) : String := s.headline ++ s.cancellation ++ " (seed " ++ s.seed.text ++ ")"

end Summary

end Readback
