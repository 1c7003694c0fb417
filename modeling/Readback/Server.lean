import Readback.Http.MediaType
import Readback.Http.Message
import Readback.Wire.Body

/-!
# The reference target

A server that holds one integer: `GET /value` shows it, `PUT /value` stores it, and `GET /health` tells that the server
is up. One of the writes can be dropped in silence, to see whether a run notices. A refused request is no write: it
neither stores nor counts. The counter of the writes is a word of 64 bits, and behind the largest it goes on from zero.
-/

namespace Readback.Server

open Http (Headers Request Response respond)

/-- The value held, the writes taken so far, and the number of the write to drop. -/
structure Store where
  value : Option Int64 := none
  writes : UInt64 := 0
  dropWrite : Option UInt64 := none
  deriving DecidableEq, Repr

/-- The bodies that the server reads and writes. -/
def valueBody : Wire.Form := ⟨"struct ValueBody", "value"⟩

/-- The version that the server reports. -/
def version : String := "0.2.0"

/-- The longest body that is read. -/
def maxBody : Nat := 2097152

/-! ## Answers -/

/-- An answer in JSON. -/
def json (status : Nat) (j : Json) : Response :=
  respond status [("content-type", "application/json")] (Text.ascii j.compact)

/-- An answer in plain words. -/
def plain (status : Nat) (text : String) : Response :=
  respond status [("content-type", "text/plain; charset=utf-8")] (Text.ascii text)

/-- An answer without a body. -/
def empty (status : Nat) (headers : Headers) : Response := respond status headers []

/-- The server is up. -/
def healthy : Response :=
  json 200 (.obj [("service", .str "echoprobe-target"), ("status", .str "ok"), ("version", .str version)])

/-- The value held. -/
def Store.report (s : Store) : Response :=
  match s.value with
  | some v => respond 200 [("content-type", "application/json")] (valueBody.encode v)
  | none => json 404 (.obj [("error", .str "No value written yet")])

/-- Takes a write. -/
def Store.put (s : Store) (v : Int64) : Store :=
  if s.dropWrite = some s.writes then { s with writes := s.writes + 1 }
  else { s with writes := s.writes + 1, value := some v }

/-! ## Writes -/

/-- Why a write is refused. -/
inductive Refusal where
  /-- The body is not declared to be JSON. -/
  | notJson
  /-- The body is too long. -/
  | tooLong
  /-- The body is no JSON. -/
  | malformed
  /-- The body is JSON of another shape. -/
  | unfit
  deriving DecidableEq, Repr

/-- The answer to a refused write. -/
def Refusal.response : Refusal → Response
  | .notJson => plain 415 "Expected request with `Content-Type: application/json`"
  | .tooLong => plain 413 "Failed to buffer the request body: length limit exceeded"
  | .malformed => plain 400 "Failed to parse the request body as JSON"
  | .unfit => plain 422 "Failed to deserialize the JSON body into the target type"

/-- Whether the headers declare the body to be JSON. -/
def declaresJson (h : Headers) : Bool :=
  ((h.get? "content-type").bind Http.MediaType.parse?).any Http.MediaType.isJson

/-- The value that a request carries; what follows it in the body does not matter. -/
def accept (r : Request) : Except Refusal Int64 :=
  if !declaresJson r.headers then .error .notJson
  else if maxBody < r.body.length then .error .tooLong
  else
    match valueBody.body r.body with
    | .ok (v, _) => .ok v
    | .error ⟨.flaw _, _⟩ => .error .malformed
    | .error ⟨.misfit _, _⟩ => .error .unfit

/-! ## Routes -/

/-- What the server has to offer. -/
inductive Route where
  | health
  | value
  deriving DecidableEq, Repr

/-- The route of a path. -/
def Route.ofPath? : String → Option Route
  | "/health" => some .health
  | "/value" => some .value
  | _ => none

/-- The methods of a route. -/
def Route.allow : Route → Headers
  | .health => [("allow", "GET,HEAD")]
  | .value => [("allow", "GET,HEAD,PUT")]

/-- The answer of a route to a request that is no question about options. -/
def Route.answer (route : Route) (s : Store) (r : Request) : Response × Store :=
  match route, r.method with
  | .health, "GET" => (healthy, s)
  | .health, "HEAD" => ({ healthy with body := [] }, s)
  | .value, "GET" => (s.report, s)
  | .value, "HEAD" => ({ s.report with body := [] }, s)
  | .value, "PUT" =>
    match accept r with
    | .ok v => (empty 204 [], s.put v)
    | .error refusal => (refusal.response, s)
  | route, _ => (empty 405 route.allow, s)

/-- Answers a request. Pages of any origin may use the server, and each answer says so. -/
def Store.handle (s : Store) (r : Request) : Response × Store :=
  let route := Route.ofPath? r.path
  if r.method = "OPTIONS" then
    let allow := (route.map Route.allow).getD []
    (empty 200 ([("access-control-allow-origin", "*"), ("access-control-allow-methods", "*"),
      ("access-control-allow-headers", "*")] ++ allow), s)
  else
    let (response, s) :=
      match route with
      | some route => route.answer s r
      | none => (empty 404 [], s)
    ({ response with headers :=
        response.headers ++ [("access-control-allow-origin", "*"), ("access-control-expose-headers", "*")] }, s)

/-- Answers requests one after the other. -/
def Store.handleAll : Store → List Request → List Response × Store
  | s, [] => ([], s)
  | s, r :: rs =>
    let (response, s) := s.handle r
    let (responses, s) := handleAll s rs
    (response :: responses, s)

end Readback.Server
