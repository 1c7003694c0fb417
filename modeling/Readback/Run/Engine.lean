import Readback.Generator
import Readback.Run.Event

/-!
# The engine

A run plays rounds one after the other: it draws a value, writes it, reads it back and compares. It ends when all rounds
are played, at the first failure if so configured, or when its stop signal is seen raised before a round other than the
first; the round in progress is always completed. A run is refused, before anything is touched, if its domain is empty,
if it has no rounds, or if its signal is raised already. Failing calls never refuse a run: they are recorded.
-/

namespace Readback

/-- All that a run can change: the values to come, the adapter's state, the signals, and what was logged. -/
structure Bench (σ V : Type) where
  generator : Generator V
  adapter : σ
  signals : Signals
  log : Array (Event V) := #[]

namespace Bench

variable {σ V α : Type}

/-- Logs an event. -/
def report (b : Bench σ V) (e : Event V) : Bench σ V := { b with log := b.log.push e }

/-- Takes over the effects of an adapter's reply. -/
def absorb (b : Bench σ V) (r : Reply σ α) : Bench σ V :=
  { b with
    adapter := r.state
    signals := b.signals.raiseAll r.raises
    log := b.log ++ (r.notes.map Event.note).toArray }

/-- Plays one round. -/
def play (adapter : Adapter σ V) (index : UInt64) (b : Bench σ V) : Round V × Bench σ V :=
  let (value, generator) := b.generator.next
  let b := { b with generator }.report (.writing index value)
  let write := adapter.write value b.adapter
  let b := b.absorb write
  match write.answer with
  | .error e => (.adapterError index value .write e, b.report (.callFailed .write index e.cause))
  | .ok () =>
    let read := adapter.read b.adapter
    let b := b.absorb read
    match read.answer with
    | .error e => (.adapterError index value .read e, b.report (.callFailed .read index e.cause))
    | .ok observed =>
      if generator.domain.equivalent value observed then (.pass index value observed, b)
      else (.mismatch index value observed, b.report (.mismatched index value observed))

end Bench

/-- A run in progress. -/
structure Progress (σ V : Type) where
  bench : Bench σ V
  result : RunResult V

/-- Drives runs; nothing carries over from one to the next. -/
structure Engine where
  config : Config := {}

namespace Engine

variable {σ V : Type}

/-- Whether the signal passed to a run, if there is one, is raised. -/
def stopRequested (stop : Option StopSignal) (signals : Signals) : Bool := stop.any signals.isRaised

/-- Plays up to `left` rounds from the given index on. -/
def loop (e : Engine) (stop : Option StopSignal) (adapter : Adapter σ V) : Nat → UInt64 → Progress σ V → Progress σ V
  | 0, _, p => p
  | left + 1, index, p =>
    if 0 < index ∧ stopRequested stop p.bench.signals then
      ⟨p.bench.report (.stopRequested index), { p.result with cancelled := true }⟩
    else
      let (round, bench) := p.bench.play adapter index
      let result := p.result.record round
      if !round.isPass && e.config.stopOnFirstFailure then ⟨bench.report (.stoppedAtFailure index), result⟩
      else loop e stop adapter left (index + 1) ⟨bench, result⟩

/-- The result that a run starts from. -/
def emptyResult (e : Engine) (g : Generator V) : RunResult V where
  seed := g.seed
  domain := g.domain.label
  roundsRequested := e.config.rounds
  retention := e.config.retention

/-- The last event of a run. -/
def finishEvent (r : RunResult V) : Event V := .finished r.verdict r.roundsCompleted r.roundsRequested r.tally

/-- Runs on a bench, after checking the configuration and the signal. -/
def drive (e : Engine) (stop : Option StopSignal) (adapter : Adapter σ V) (b : Bench σ V) :
    Except SetupError (RunResult V) × Bench σ V :=
  match e.config.validate with
  | .error err => (.error err, b)
  | .ok () =>
    if stopRequested stop b.signals then (.error .staleSignal, b)
    else
      let opened := b.report (.started e.config.rounds b.generator.domain.label b.generator.seed)
      let ended := e.loop stop adapter e.config.rounds.toNat 0 ⟨opened, e.emptyResult b.generator⟩
      let result := { ended.result with finished := true }
      (.ok result, ended.bench.report (finishEvent result))

/-- What a run leaves besides its generator: its result or refusal, the adapter, the signals and the log. -/
structure Ending (σ V : Type) where
  result : Except SetupError (RunResult V)
  adapter : σ
  signals : Signals
  log : Array (Event V)

/-- Runs over a domain from a seed; `stop`, if given, can end the run early. -/
def run (e : Engine) (domain : Domain V) (seed : Seed) (stop : Option StopSignal) (adapter : Adapter σ V) (state : σ)
    (signals : Signals) : Ending σ V :=
  match Generator.new domain seed with
  | .error err => ⟨.error err, state, signals, #[]⟩
  | .ok generator =>
    let (result, b) := e.drive stop adapter { generator, adapter := state, signals }
    ⟨result, b.adapter, b.signals, b.log⟩

/-- Runs with a generator that the caller goes on using. -/
def runWith (e : Engine) (generator : Generator V) (adapter : Adapter σ V) (state : σ) (signals : Signals) :
    Ending σ V × Generator V :=
  let (result, b) := e.drive none adapter { generator, adapter := state, signals }
  (⟨result, b.adapter, b.signals, b.log⟩, b.generator)

end Engine

end Readback
