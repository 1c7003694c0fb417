import Readback.Adapter.Faulty
import Readback.Adapter.Interrupt
import Readback.CommandLine.Command
import Readback.Program.Transcript
import Readback.Report.Encoding
import Readback.Report.Listing
import Readback.Run.Engine
import Readback.Target.Connection

/-!
# The run command

Checks the bounds, the rounds, the seed and the target, in this order, connects to the target and runs against it. The
seed is told before the target is looked at, so that every run that comes to anything can be replayed. Whatever keeps
the run from starting is a refusal; what happens afterwards is in the result. From the time when everything is set up,
interrupts can arrive; the second one ends the process, whatever it is about.
-/

namespace Readback.Program

open CommandLine (RunOptions)
open Http (Network Causes)

variable {σ τ : Type}

/-- Why a run does not start. -/
inductive Refusal where
  /-- The domain, the configuration or the seed is not usable. -/
  | setup (error : SetupError)
  /-- There is no such target. -/
  | unknownTarget (message : String)
  /-- The target, as it was given, cannot be reached. -/
  | unreachable (target : String) (causes : Causes)
  deriving DecidableEq, Repr

/-- A refusal for the terminal. -/
def Refusal.text : Refusal → String
  | .setup error => error.advice
  | .unknownTarget message => "Error: " ++ message
  | .unreachable target causes =>
    "Error: Failed to set up target '" ++ target ++ "': " ++ ": ".intercalate causes

/-- The seed of a run whose domain, configuration and seed are usable. -/
def checkedSeed (o : RunOptions) (fresh : Seed) : Except SetupError Seed := do
  let _ ← o.bounds.check
  o.config.validate
  match o.seed with
  | some text => Seed.parse text
  | none => return fresh

/-- The signal that an interrupt raises. -/
def interruptSignal : StopSignal := ⟨0⟩

/-- The signals raised when the run starts. -/
def initialSignals (interrupts : List Moment) : Signals :=
  Signals.none.raiseAll (List.replicate (interrupts.count .beforeRun) interruptSignal)

/-- The injector of the write to drop. -/
def injector (dropWrite : Option UInt64) : Injector where
  faults := dropWrite.toList.map .dropWrite

/-- How the calls of a command get to its target: what the target's adapter is wrapped in, and the state that the
wrapper starts from. -/
structure Access (σ τ : Type) where
  wrap : Adapter (Site σ) Int64 → Adapter τ Int64
  enter : Site σ → τ

/-- The calls are made of the target itself. -/
def Access.direct : Access σ (Site σ) := ⟨id, id⟩

/-- Runs against a target that is connected to. -/
def play (via : Access σ τ) (o : RunOptions) (net : Network σ) (target : Target) (seed : Seed)
    (interrupts : List Moment) (s : σ) : Engine.Ending (Watch × Injector × τ) Int64 :=
  (Engine.mk o.config).run o.bounds.domain seed (some interruptSignal)
    ((via.wrap (target.adapter net)).faulty.watched interruptSignal)
    (.start interrupts, injector o.dropWrite, via.enter { network := s }) (initialSignals interrupts)

/-! ## Remarks -/

/-- The remarks about the interrupts that arrive at a moment. -/
def interruptRemarks (interrupts : List Moment) (moment : Moment) : List Remark :=
  List.replicate (interrupts.count moment) (.logged interruptNote)

/-- The remark about the write to drop. -/
def dropRemark (o : RunOptions) : List Remark :=
  o.dropWrite.toList.map fun n =>
    .logged ⟨.info, "echoprobe", "Injecting a dropped write at call " ++ Numeral.natText n.toNat, []⟩

/-- The last remarks about a result. -/
def closingRemarks (r : RunResult Int64) : List Remark :=
  .said (Summary.ofResult r).text ::
    if r.cancelled then
      [.said ("Interrupted after " ++ Numeral.natText r.roundsCompleted.toNat ++ " of " ++
        Numeral.natText r.roundsRequested.toNat ++ " rounds; the verdict covers only those rounds")]
    else []

/-- The remarks that come to be made: none from the second interrupt on. -/
def untilSecond (remarks : List Remark) : List Remark :=
  let uninterrupted (r : Remark) : Bool := r ≠ .logged interruptNote
  match remarks.dropWhile uninterrupted with
  | [] => remarks
  | first :: rest => remarks.takeWhile uninterrupted ++ first :: rest.takeWhile uninterrupted

/-! ## The command -/

/-- How a run command ends. -/
inductive Fate where
  /-- With a result, which is reported. -/
  | reported (result : RunResult Int64)
  /-- With a refusal. -/
  | refused (refusal : Refusal)
  /-- With the second interrupt, when this result or nothing was reported. -/
  | killed (reported : Option (RunResult Int64))

/-- How a command ends whose engine is done, when so many interrupts had arrived by then. -/
def Fate.ofEngine (interrupts : List Moment) (received : Nat) (result : Except SetupError (RunResult Int64)) : Fate :=
  let beforeReport := received + interrupts.count .beforeReport
  let afterReport := beforeReport + interrupts.count .afterReport
  if 2 ≤ beforeReport then .killed none
  else
    match result with
    | .ok r => if 2 ≤ afterReport then .killed (some r) else .reported r
    | .error e => if 2 ≤ afterReport then .killed none else .refused (.setup e)

/-- A run command that has ended: how, the remarks made, and what its calls left. -/
structure Execution (τ : Type) where
  fate : Fate
  remarks : List Remark
  site : τ

/-- The network when a command has ended. -/
def Execution.network (e : Execution (Site σ)) : σ := e.site.network

/-- Carries out a run command whose calls get to the target in a given way. -/
def executeVia (via : Access σ τ) (o : RunOptions) (net : Network σ) (fresh : Seed) (interrupts : List Moment) (s : σ) :
    Execution τ :=
  let refuse (refusal : Refusal) (remarks : List Remark) (s : σ) : Execution τ :=
    ⟨.refused refusal, remarks ++ [.said refusal.text], via.enter { network := s }⟩
  match checkedSeed o fresh with
  | .error e => refuse (.setup e) [] s
  | .ok seed =>
    let seedRemark := Remark.said ("seed: " ++ seed.text)
    match Target.parse o.target with
    | .error message => refuse (.unknownTarget message) [seedRemark] s
    | .ok target =>
      match target.connect net s with
      | (.error causes, s) => refuse (.unreachable o.target causes) [seedRemark] s
      | (.ok lines, s) =>
        let ending := play via o net target seed interrupts s
        let closing :=
          match ending.result with
          | .ok r => closingRemarks r
          | .error e => [.said (Refusal.setup e).text]
        let remarks := seedRemark :: lines.map .logged ++ dropRemark o ++ interruptRemarks interrupts .beforeRun ++
          ending.log.toList.map (.logged ·.line) ++ interruptRemarks interrupts .beforeReport ++ closing ++
          interruptRemarks interrupts .afterReport
        ⟨.ofEngine interrupts ending.adapter.1.received ending.result, untilSecond remarks, ending.adapter.2.2⟩

/-- Carries out a run command. -/
def execute (o : RunOptions) (net : Network σ) (fresh : Seed) (interrupts : List Moment) (s : σ) :
    Execution (Site σ) :=
  executeVia .direct o net fresh interrupts s

namespace Execution

/-- The exit status. -/
def exit (e : Execution τ) : UInt8 :=
  match e.fate with
  | .reported r => (RunStatus.ofResult r).exitCode
  | .refused _ => setupErrorExit
  | .killed _ => 130

/-- The report of a result: its JSON or its listing. -/
def report (json : Bool) (times : Times) (r : RunResult Int64) : String :=
  let summary := Summary.ofResult r
  if json then (reportJson r summary times).pretty ++ "\n" else Listing.text r summary

/-- What the process leaves behind. -/
def transcript (e : Execution τ) (json : Bool) (times : Times) (filter : Log.Filter) : Transcript :=
  let stdout :=
    match e.fate with
    | .reported r | .killed (some r) => report json times r
    | .refused _ | .killed none => ""
  ⟨e.exit, stdout, Remark.render filter e.remarks⟩

end Execution

end Readback.Program
