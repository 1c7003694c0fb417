import Readback.Log.Filter

/-!
# Transcripts

What a process leaves behind: its exit status and the text of its two outputs. Results go to the standard output. The
error output takes remarks: some are always made, log lines only if the filter shows them.
-/

namespace Readback

/-- Something written to the error output. -/
inductive Remark where
  /-- A line that is always written. -/
  | said (text : String)
  /-- A log line. -/
  | logged (line : Log.Line)
  deriving DecidableEq, Repr

namespace Remark

/-- The line of a remark, if the filter shows it. -/
def text? (filter : Log.Filter) : Remark → Option String
  | .said text => some text
  | .logged line => if filter.shows line then some line.text else none

/-- Remarks, each on lines of its own. -/
def render (filter : Log.Filter) (remarks : List Remark) : String :=
  String.join ((remarks.filterMap (text? filter)).map (· ++ "\n"))

end Remark

/-- What a process leaves behind. -/
structure Transcript where
  exit : UInt8
  stdout : String
  stderr : String
  deriving DecidableEq, Repr

/-- The exit status of a process that could not do what it was asked to. -/
def setupErrorExit : UInt8 := 2

end Readback
