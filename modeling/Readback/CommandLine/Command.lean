import Readback.CommandLine.Scan
import Readback.Domain.IntRange
import Readback.Run.Config

/-!
# Commands

What the program can be asked to do: to run against a target, or to serve as one. Options of the program itself stand
before the name of the command, and the option for more log lines can stand on either side of it.
-/

namespace Readback.CommandLine

/-! ## Options -/

/-- The options of a run. -/
structure RunOptions where
  bounds : Bounds := .default
  config : Config := {}
  /-- The seed as it was given; without one, a fresh seed is drawn. -/
  seed : Option String := none
  /-- The target as it was given. -/
  target : String := "memory"
  /-- How long a request may take, in milliseconds. -/
  timeoutMs : UInt64 := 5000
  /-- The number of the write to drop. -/
  dropWrite : Option UInt64 := none
  /-- Whether the report is in JSON. -/
  json : Bool := false

/-- The options of a server. -/
structure ServeOptions where
  host : String := "127.0.0.1"
  port : Nat := 3000
  /-- The number of the write to drop. -/
  dropWrite : Option UInt64 := none

/-- What the program is asked to do. -/
inductive Command where
  | run (options : RunOptions)
  | serve (options : ServeOptions)

/-- A command, and whether it is to log more than usual. -/
structure Invocation where
  command : Command
  verbose : Bool

/-! ## Switches -/

/-- The switch for more log lines. -/
def verboseSwitch : Switch where
  long := "verbose"
  short := some 'v'

/-- The switch that drops a write. -/
def dropWriteSwitch : Switch where
  long := "drop-write"
  value := some ("N", .uint64)

/-- The switches before the name of a command. -/
def programSwitches : List Switch := [verboseSwitch, helpSwitch, versionSwitch]

/-- The switches of a run. -/
def runSwitches : List Switch :=
  [{ long := "rounds", short := some 'n', value := some ("ROUNDS", .uint64) },
    { long := "min", value := some ("MIN", .int64), negative := true },
    { long := "max", value := some ("MAX", .int64), negative := true },
    { long := "seed", short := some 's', value := some ("SEED", .text) },
    { long := "stop-on-first-failure", short := some 'x' },
    { long := "failures-only" },
    { long := "target", short := some 't', value := some ("TARGET", .text) },
    { long := "timeout-ms", value := some ("TIMEOUT_MS", .uint64) },
    dropWriteSwitch,
    { long := "json" },
    verboseSwitch,
    helpSwitch]

/-- The switches of a server. -/
def serveSwitches : List Switch :=
  [{ long := "host", value := some ("HOST", .text) },
    { long := "port", short := some 'p', value := some ("PORT", .port) },
    dropWriteSwitch,
    verboseSwitch,
    helpSwitch]

/-! ## Decoding -/

namespace Scan

/-- Whether an option was given. -/
def has (s : Scan) (name : String) : Bool := (s.given.lookup name).isSome

/-- The text given for an option. -/
def text? (s : Scan) (name : String) : Option String := s.given.lookup name

/-- The number given for an option that takes one. -/
def uint64? (s : Scan) (name : String) : Option UInt64 := (s.text? name).bind fun t => (Numeral.uint64 t).toOption

/-- The number given for an option that takes one with a sign. -/
def int64? (s : Scan) (name : String) : Option Int64 := (s.text? name).bind fun t => (Numeral.int64 t).toOption

/-- The options of a run; what is not given is as usual. -/
def runOptions (s : Scan) : RunOptions :=
  let usual : RunOptions := {}
  { bounds := ⟨(s.int64? "min").getD usual.bounds.min, (s.int64? "max").getD usual.bounds.max⟩
    config := {
      rounds := (s.uint64? "rounds").getD usual.config.rounds
      stopOnFirstFailure := s.has "stop-on-first-failure"
      retention := if s.has "failures-only" then .failuresOnly else .all }
    seed := s.text? "seed"
    target := (s.text? "target").getD usual.target
    timeoutMs := (s.uint64? "timeout-ms").getD usual.timeoutMs
    dropWrite := s.uint64? "drop-write"
    json := s.has "json" }

/-- The options of a server; what is not given is as usual. -/
def serveOptions (s : Scan) : ServeOptions :=
  let usual : ServeOptions := {}
  { host := (s.text? "host").getD usual.host
    port := ((s.int64? "port").map fun p => p.toInt.toNat).getD usual.port
    dropWrite := s.uint64? "drop-write" }

end Scan

/-! ## Reading -/

/-- The name of the program. -/
def programName : String := "echoprobe"

/-- The names that can stand for a command. -/
def commandNames : List String := ["run", "serve", "help"]

/-- Reads the options of a command, which takes nothing else. -/
def readOptions (switches : List Switch) (arguments : List String) : Except Halt Scan := do
  match ← scan switches {} arguments with
  | (s, none) => s.settle
  | (_, some stray) => complain (.unexpectedArgument stray.argument)

/-- Reads what help is asked about: nothing in particular, or one command. -/
def readHelp : List String → Halt
  | [] => .help
  | name :: rest =>
    if name ∉ commandNames then .complaint (.unrecognizedSubcommand name)
    else
      match rest with
      | [] => .help
      | other :: _ => .complaint (.unrecognizedSubcommand other)

/-- Reads the arguments of the program. -/
def parse : List String → Except Halt Invocation
  | [] => .error .bare
  | arguments => do
    let (s, stray) ← scan programSwitches {} arguments
    match stray with
    | none =>
      let _ ← s.settle
      complain (.missingSubcommand programName)
    | some ⟨name, _, true⟩ =>
      complain (if name ∈ commandNames then .unexpectedArgument name else .unrecognizedSubcommand name)
    | some ⟨"run", rest, false⟩ =>
      let o ← readOptions runSwitches rest
      return ⟨.run o.runOptions, s.has "verbose" || o.has "verbose"⟩
    | some ⟨"serve", rest, false⟩ =>
      let o ← readOptions serveSwitches rest
      return ⟨.serve o.serveOptions, s.has "verbose" || o.has "verbose"⟩
    | some ⟨"help", rest, false⟩ => .error (readHelp rest)
    | some ⟨name, _, false⟩ => complain (.unrecognizedSubcommand name)

end Readback.CommandLine
