import Readback.Adapter.Basic
import Readback.Http.Client
import Readback.Server

/-!
# Targets behind the network

The adapter that stores a value with `PUT /value` and reads it back with `GET /value`. A target is connected to only if
its `/health` answers without an error. A call that gets no usable answer fails with the whole chain of causes.
-/

namespace Readback.HttpTarget

open Http (Network Request)

variable {σ : Type}

/-- The bodies that the client writes and reads. -/
def valueBody : Wire.Form := ⟨"struct ValueBody", "value"⟩

/-- The address of the value. -/
def valueUrl (base : String) : String := base ++ "/value"

/-- The address that tells whether the target is up. -/
def healthUrl (base : String) : String := base ++ "/health"

/-- The request that stores a value. -/
def putRequest (base : String) (v : Int64) : Request where
  method := "PUT"
  uri := valueUrl base
  headers := [("content-type", "application/json")]
  body := valueBody.encode v

/-- The request that reads an address. -/
def getRequest (url : String) : Request where
  method := "GET"
  uri := url

/-- A line logged by the adapter. -/
def note (level : Log.Level) (message : String) : Log.Line := ⟨level, "echoprobe::target", message, []⟩

/-- The line about a write. -/
def putNote (base : String) (v : Int64) : Log.Line :=
  note .debug ("PUT " ++ valueUrl base ++ " <- " ++ Value.text v)

/-- The value in an answer. -/
def decode (body : List UInt8) : Except Http.Causes Int64 :=
  match valueBody.wholeBody body with
  | .ok v => .ok v
  | .error problem => .error ["error decoding response body", problem.message body]

/-- Makes a failed exchange a failed call. -/
def answer {α : Type} (a : Except Http.Causes α) : Except AdapterError α :=
  match a with
  | .ok v => .ok v
  | .error causes => .error (.ofChain causes)

/-- The adapter of the target at an address. -/
def adapter (net : Network σ) (base : String) : Adapter σ Int64 where
  write v s :=
    let (response, s) := Http.request net (putRequest base v) s
    { answer := answer (response.map fun _ => ()), state := s, notes := [putNote base v] }
  read s :=
    let (response, s) := Http.request net (getRequest (valueUrl base)) s
    { answer := answer (response.bind fun r => decode r.body), state := s }

/-- Asks whether the target is up. -/
def connect (net : Network σ) (base : String) (s : σ) : Except Http.Causes Unit × σ :=
  let (response, s) := Http.request net (getRequest (healthUrl base)) s
  match response with
  | .ok _ => (.ok (), s)
  | .error causes => (.error (("Target unreachable at " ++ healthUrl base) :: causes), s)

/-- The line about a target that is up. -/
def connectedNote (base : String) : Log.Line := note .info ("Connected to target at " ++ base)

/-- The network on which the reference target answers every request at once. -/
def referenceNetwork : Network Server.Store where
  send _ r s :=
    let (response, s) := s.handle r
    (.answered response, s)

end Readback.HttpTarget
