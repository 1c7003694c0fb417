import Readback.Json.Printer
import Readback.Report.Summary

/-!
# Reports in JSON

Results and summaries as JSON values, with their fields in a fixed order. The outcome of a round stands among the
round's own fields; a field without a value is left out.
-/

namespace Readback

/-- A counter in JSON. -/
def Json.counter (n : UInt64) : Json := .nat n.toNat

/-- The fields of an outcome. -/
def Outcome.fields : Outcome → List (String × Json)
  | .pass => [("outcome", .str "pass")]
  | .mismatch => [("outcome", .str "mismatch")]
  | .adapterError stage cause =>
    [("outcome", .str "adapter_error"), ("stage", .str stage.text), ("cause", .str cause)]

/-- A round in JSON. -/
def Round.json {V : Type} [Value V] (r : Round V) : Json :=
  .obj ([("index", .counter r.index), ("input", Value.json r.input)] ++
    Json.optionalField "observed" Value.json r.observed ++ r.outcome.fields)

/-- A tally in JSON. -/
def Tally.json (t : Tally) : Json :=
  .obj [("passed", .counter t.passed), ("mismatched", .counter t.mismatched),
    ("adapter_errors", .counter t.adapterErrors)]

/-- A configuration in JSON. -/
def Config.json (c : Config) : Json :=
  .obj [("rounds", .counter c.rounds), ("stop_on_first_failure", .bool c.stopOnFirstFailure),
    ("retention", .str c.retention.text)]

/-- The fields of a result, without its times. -/
def RunResult.fields {V : Type} [Value V] (r : RunResult V) : List (String × Json) :=
  [("seed", .counter r.seed.value), ("domain", .str r.domain), ("rounds_requested", .counter r.roundsRequested),
    ("rounds_completed", .counter r.roundsCompleted), ("retention", .str r.retention.text),
    ("rounds", .arr (r.rounds.toList.map Round.json)), ("tally", r.tally.json), ("cancelled", .bool r.cancelled)]

/-- A result in JSON, without its times. -/
def RunResult.json {V : Type} [Value V] (r : RunResult V) : Json := .obj r.fields

/-- What went wrong in JSON. -/
def FailureDetail.json : FailureDetail → Json
  | .mismatch index expected observed =>
    .obj [("kind", .str "mismatch"), ("index", .counter index), ("expected", .str expected),
      ("observed", .str observed)]
  | .adapterError index expected stage cause =>
    .obj [("kind", .str "adapter_error"), ("index", .counter index), ("expected", .str expected),
      ("stage", .str stage.text), ("cause", .str cause)]

/-- A summary in JSON. -/
def Summary.json (s : Summary) : Json :=
  .obj ([("verdict", .str s.verdict.text), ("seed", .counter s.seed.value),
    ("rounds_requested", .counter s.roundsRequested), ("rounds_completed", .counter s.roundsCompleted),
    ("passed", .counter s.passed), ("failed", .counter s.failed), ("cancelled", .bool s.cancelled)] ++
    Json.optionalField "first_failure" FailureDetail.json s.firstFailure)

/-- When a run started and when it came to its end. -/
structure Times where
  started : String
  finished : String
  deriving Repr

/-- The full report of a run in JSON. -/
def reportJson {V : Type} [Value V] (r : RunResult V) (s : Summary) (times : Times) : Json :=
  .obj [("summary", s.json),
    ("result", .obj (r.fields ++ [("started_at", .str times.started)] ++
      if r.finished then [("finished_at", .str times.finished)] else []))]

end Readback
