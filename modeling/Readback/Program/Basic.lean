import Readback.Program.Run
import Readback.Program.Serve

/-!
# The program

From arguments to what the process leaves behind. All that comes from outside (the wish for a log filter, a fresh seed,
the network, the endpoints to listen on, interrupts, the time) is passed in.
-/

namespace Readback.Program

open CommandLine (Halt)

variable {σ : Type}

/-- What a process finds around it. -/
structure Surroundings (σ : Type) where
  /-- The log filter that is asked for. -/
  logFilter : Option String := none
  /-- The seed of a run for which none is given. -/
  freshSeed : Seed
  /-- The network, for a limit in milliseconds on the time that a request takes. -/
  network : UInt64 → Http.Network σ
  /-- Claims an endpoint, or tells why it cannot be had. -/
  listen : Http.Endpoint → Except String Unit
  /-- When interrupts arrive, in any order. -/
  interrupts : List Moment := []

/-- What the program has to tell about its use. -/
def usage : String :=
  "Write it, read it back, check it stuck.\n\n" ++
  "Usage: echoprobe [OPTIONS] <COMMAND>\n\n" ++
  "Commands:\n" ++
  "  run    Fuzz a target with random write/read rounds\n" ++
  "  serve  Start the reference HTTP target (default: localhost:3000)\n" ++
  "  help   Print this message\n\n" ++
  "Options:\n" ++
  "  -v, --verbose  Log every generated value\n" ++
  "  -h, --help     Print help\n" ++
  "  -V, --version  Print version\n"

/-- What the process leaves behind if no command results from the arguments. -/
def haltTranscript : Halt → Transcript
  | .complaint c => ⟨setupErrorExit, "", "error: " ++ c.message ++ "\n"⟩
  | .help => ⟨0, usage, ""⟩
  | .version => ⟨0, CommandLine.programName ++ " " ++ Server.version ++ "\n", ""⟩
  | .bare => ⟨setupErrorExit, "", usage⟩

/-- What became of the arguments. -/
inductive Conclusion (σ : Type) where
  /-- No command results from them. -/
  | halted (halt : Halt)
  /-- A run came to its end. -/
  | ran (json : Bool) (filter : Log.Filter) (execution : Execution (Site σ))
  /-- A server was opened, or could not be. -/
  | opened (filter : Log.Filter) (opening : Opening)

/-- Carries out the command that the arguments ask for. -/
def conclude (arguments : List String) (w : Surroundings σ) (s : σ) : Conclusion σ :=
  match CommandLine.parse arguments with
  | .error halt => .halted halt
  | .ok ⟨command, verbose⟩ =>
    let filter := Log.Filter.choose w.logFilter verbose
    match command with
    | .run o => .ran o.json filter (execute o (w.network o.timeoutMs) w.freshSeed w.interrupts s)
    | .serve o => .opened filter (openTarget o w.listen)

/-- What the process leaves behind; `times` are those of the run, if there was one. -/
def Conclusion.transcript (c : Conclusion σ) (times : Times) : Transcript :=
  match c with
  | .halted halt => haltTranscript halt
  | .ran json filter execution => execution.transcript json times filter
  | .opened filter opening => opening.transcript filter

end Readback.Program
