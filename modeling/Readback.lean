import Readback.Main
import Readback.Proofs.Adapter.Calls
import Readback.Proofs.Adapter.FaultyCell
import Readback.Proofs.Adapter.Filter
import Readback.Proofs.Adapter.Watched
import Readback.Proofs.Domain.Consumption
import Readback.Proofs.Domain.Safety
import Readback.Proofs.Domain.Translation
import Readback.Proofs.Domain.Uniformity
import Readback.Proofs.Json.Fieldwise
import Readback.Proofs.Program.Exit
import Readback.Proofs.Program.Interrupt
import Readback.Proofs.Program.Setup
import Readback.Proofs.Report.Faithful
import Readback.Proofs.Report.Listed
import Readback.Proofs.Report.Lossless
import Readback.Proofs.Run.Accounting
import Readback.Proofs.Run.Chronicle
import Readback.Proofs.Run.Composition
import Readback.Proofs.Run.Curtailment
import Readback.Proofs.Run.Interference
import Readback.Proofs.Run.Length
import Readback.Proofs.Run.Refusal
import Readback.Proofs.Run.Retention
import Readback.Proofs.Run.Session
import Readback.Proofs.Run.Simulation
import Readback.Proofs.Seed.Grammar
import Readback.Proofs.Server.History
import Readback.Proofs.Target.Echo
import Readback.Proofs.Target.Grammar
import Readback.Proofs.Target.Refinement
import Readback.Proofs.Target.Transport
import Readback.Proofs.Text.Drawing
import Readback.Proofs.Text.Positional
import Readback.Proofs.Text.Trimming
import Readback.Proofs.Wire.Exactness
import Readback.Proofs.Wire.RoundTrip
import Readback.Workbench
