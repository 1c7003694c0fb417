import Readback.CommandLine.Command
import Readback.Http.Endpoint
import Readback.Program.Transcript
import Readback.Server

/-!
# The serve command

Opens the reference target to the network. The command ends only if it cannot listen; otherwise it goes on answering
requests from its store.
-/

namespace Readback.Program

open CommandLine (ServeOptions)
open Http (Endpoint)

/-- What came of a serve command, and the remarks made. -/
structure Opening where
  /-- The store to answer requests from, or why nobody listens. -/
  store : Except String Server.Store
  remarks : List Remark

/-- A line logged by the server. -/
def serverNote (level : Log.Level) (message : String) : Remark :=
  .logged ⟨level, "echoprobe::server::http", message, []⟩

/-- The remark about a write that will be dropped. -/
def dropRemarks (o : ServeOptions) : List Remark :=
  o.dropWrite.toList.map fun n =>
    serverNote .warn ("Write " ++ Numeral.natText n.toNat ++ " will be silently dropped")

/-- Opens the reference target; `listen` claims an endpoint, or tells why it cannot be had. -/
def openTarget (o : ServeOptions) (listen : Endpoint → Except String Unit) : Opening :=
  match Endpoint.parse? o.host o.port with
  | none => ⟨.error "invalid socket address syntax", dropRemarks o⟩
  | some endpoint =>
    ⟨(listen endpoint).map fun _ => { dropWrite := o.dropWrite },
      dropRemarks o ++ [serverNote .info ("echoprobe target listening on " ++ endpoint.text)]⟩

/-- What the process leaves behind if nobody listens, or has written so far otherwise. -/
def Opening.transcript (opening : Opening) (filter : Log.Filter) : Transcript :=
  match opening.store with
  | .ok _ => ⟨0, "", Remark.render filter opening.remarks⟩
  | .error why => ⟨setupErrorExit, "", Remark.render filter (opening.remarks ++ [.said ("Error: " ++ why)])⟩

end Readback.Program
