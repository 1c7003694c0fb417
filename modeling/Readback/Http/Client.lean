import Readback.Http.Message
import Readback.Http.Url

/-!
# The client

Sends a request over a network and follows redirections. A network is a state machine: it takes a request to whoever
answers at its address. What can go wrong (an address that is none or cannot be asked for, nobody there, no answer in
time, a status that means an error) becomes a chain of causes, the outermost first.
-/

namespace Readback.Http

/-- What became of a request. -/
inductive Delivery where
  /-- Nobody could be reached. -/
  | unreachable (why : String)
  /-- No answer came in time. -/
  | timedOut
  /-- An answer came. -/
  | answered (response : Response)

/-- Takes requests to the hosts at their addresses. -/
structure Network (σ : Type) where
  send : Url → Request → σ → Delivery × σ

/-- The network on which nobody answers. -/
def Network.unreachable : Network Unit where
  send _ _ s := (.unreachable "tcp connect error: Connection refused (os error 111)", s)

/-- Causes, the outermost first. -/
abbrev Causes := List String

/-- The end of a message about an address. -/
def forUrl (u : Url) : String := " for url (" ++ u.text ++ ")"

/-- The method and the body with which a redirection is followed; none if the status is no redirection. -/
def redirected? (status : Nat) (method : String) (body : List UInt8) : Option (String × List UInt8) :=
  if status = 301 ∨ status = 302 ∨ status = 303 then some (if method = "HEAD" then "HEAD" else "GET", [])
  else if status = 307 ∨ status = 308 then some (method, body)
  else none

/-- Sends a request and follows up to `hops` redirections. -/
def follow {σ : Type} (net : Network σ) : Nat → Url → Request → σ → Except Causes (Response × Url) × σ
  | hops, url, request, s =>
    if !url.fitsRequest then (.error ["builder error" ++ forUrl url, "Parsed Url is not a valid Uri"], s)
    else
      match net.send url { request with uri := url.resource } s with
      | (.unreachable why, s) =>
        (.error ["error sending request" ++ forUrl url, "client error (Connect)", why], s)
      | (.timedOut, s) => (.error ["error sending request" ++ forUrl url, "operation timed out"], s)
      | (.answered response, s) =>
        let next := do
          let (method, body) ← redirected? response.status request.method request.body
          let url ← (url.join (← response.headers.get? "location")).toOption
          return (url, { request with method, body, headers := if body.isEmpty then [] else request.headers })
        match next, hops with
        | none, _ => (.ok (response, url), s)
        | some _, 0 => (.error ["error following redirect" ++ forUrl url, "too many redirects"], s)
        | some (url, request), hops + 1 => follow net hops url request s

/-- Refuses a response whose status means an error. -/
def checkStatus (response : Response) (url : Url) : Except Causes Response :=
  let refuse (whose : String) : Except Causes Response :=
    .error ["HTTP status " ++ whose ++ " error (" ++ Numeral.natText response.status ++ " " ++ response.reason ++ ")" ++
      forUrl url]
  if 400 ≤ response.status ∧ response.status < 500 then refuse "client"
  else if 500 ≤ response.status ∧ response.status < 600 then refuse "server"
  else .ok response

/-- Sends a request to the address it names, and refuses an answer that means an error. -/
def request {σ : Type} (net : Network σ) (r : Request) (s : σ) : Except Causes Response × σ :=
  match Url.parse r.uri with
  | .error problem => (.error ["builder error", problem.message], s)
  | .ok url =>
    let (answer, s) := follow net 10 url r s
    (answer.bind fun (response, url) => checkStatus response url, s)

end Readback.Http
