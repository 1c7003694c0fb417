import Readback.Text.Utf8

/-!
# Messages

Requests and responses of the hypertext transfer protocol, as far as a value service needs them.
-/

namespace Readback.Http

/-- Header fields, by name and in order. -/
abbrev Headers := List (String × String)

/-- The first header of that name, whatever its case. -/
def Headers.get? (h : Headers) (name : String) : Option String :=
  (h.find? fun (n, _) => n.toLower = name.toLower).map (·.2)

/-- A request. -/
structure Request where
  method : String
  /-- The address as it was sent: a path, or an address with a scheme and a host. -/
  uri : String
  headers : Headers := []
  body : List UInt8 := []

/-- The path of an address: without scheme, host, query and fragment. -/
def pathOf (uri : String) : String :=
  let behindScheme : List Char → Option (List Char)
    | ':' :: '/' :: '/' :: rest => some rest
    | _ => none
  let cs := uri.toList.takeWhile fun c => c ≠ '?' ∧ c ≠ '#'
  if cs.head? = some '/' then String.ofList cs
  else
    match behindScheme (cs.dropWhile fun c => c ≠ ':') with
    | none => String.ofList cs
    | some rest =>
      let path := rest.dropWhile (· ≠ '/')
      if path.isEmpty then "/" else String.ofList path

/-- The path that a request asks for. -/
def Request.path (r : Request) : String := pathOf r.uri

/-- A response. -/
structure Response where
  status : Nat
  reason : String
  headers : Headers := []
  body : List UInt8 := []

/-- The standard words for a status. -/
def reasonOf : Nat → String
  | 200 => "OK"
  | 204 => "No Content"
  | 400 => "Bad Request"
  | 404 => "Not Found"
  | 405 => "Method Not Allowed"
  | 413 => "Payload Too Large"
  | 415 => "Unsupported Media Type"
  | 422 => "Unprocessable Entity"
  | 500 => "Internal Server Error"
  | _ => ""

/-- A response with the standard words for its status. -/
def respond (status : Nat) (headers : Headers) (body : List UInt8) : Response :=
  ⟨status, reasonOf status, headers, body⟩

end Readback.Http
