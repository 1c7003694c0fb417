import Readback.Report.Summary
import Readback.Text.Grid

/-!
# Listings

A run for the terminal: an overview of its counters and, if rounds failed, a table of the first twenty of them with the
number of those left out.
-/

namespace Readback.Listing

open Text (Cell Grid)

/-- How many failing rounds are listed. -/
def maxFailures : Nat := 20

/-- The rows of the overview: a name and a value each. -/
def overviewRows {V : Type} (r : RunResult V) (s : Summary) : List (String × String) :=
  let rounds := Event.counter r.roundsCompleted ++ " of " ++ Event.counter r.roundsRequested
  [("Verdict", s.verdict.text),
    ("Seed", r.seed.text),
    ("Domain", r.domain),
    ("Rounds", if r.cancelled then rounds ++ " (cancelled)" else rounds),
    ("Passed", Event.counter r.tally.passed),
    ("Mismatched", Event.counter r.tally.mismatched),
    ("Adapter errors", Event.counter r.tally.adapterErrors)]

/-- The overview. -/
def overview {V : Type} (r : RunResult V) (s : Summary) : Grid where
  header := [.ofText "Run" .left, .ofText "Value" .left]
  rows := (overviewRows r s).map fun (name, value) => [.ofText name .left, .ofText value .left]

/-- How a round ended. -/
def outcomeText : Outcome → String
  | .pass => "pass"
  | .mismatch => "mismatch"
  | .adapterError stage cause => stage.text ++ " failed: " ++ cause

/-- The row of a failing round. -/
def failureRow {V : Type} [Value V] (r : Round V) : List String :=
  [Event.counter r.index, Value.text r.input, (r.observed.map Value.text).getD "-", outcomeText r.outcome]

/-- The table of failing rounds. -/
def failureGrid {V : Type} [Value V] (failures : List (Round V)) : Grid where
  header := [.ofText "Round" .right, .ofText "Expected" .right, .ofText "Observed" .right, .ofText "Outcome" .left]
  rows := (failures.take maxFailures).map fun r => (failureRow r).map (.ofText · .left)

/-- The line about the failing rounds that are not listed. -/
def omitted (failures : Nat) : String :=
  if maxFailures < failures then
    "\n... and " ++ Numeral.natText (failures - maxFailures) ++ " more failing rounds (use --json for all)"
  else ""

/-- The part of a listing about failing rounds; empty if there are none. -/
def failureSection {V : Type} [Value V] (failures : List (Round V)) : String :=
  if failures.isEmpty then "" else (failureGrid failures).draw ++ omitted failures.length ++ "\n"

/-- The listing of a run. -/
def text {V : Type} [Value V] (r : RunResult V) (s : Summary) : String :=
  (overview r s).draw ++ "\n" ++ failureSection r.failures

end Readback.Listing
