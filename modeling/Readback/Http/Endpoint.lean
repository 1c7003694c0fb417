import Readback.Http.Host

/-!
# Endpoints

Where a server listens: an address and a port. An address is four decimal bytes between dots, or eight groups in
brackets, to which the number of a zone may be added.
-/

namespace Readback.Http

/-- An address on the network. -/
inductive Address where
  /-- Four bytes. -/
  | short (octets : List Nat)
  /-- Eight groups, and the zone in which they are meant; zone nought is none in particular. -/
  | long (groups : List Nat) (zone : Nat)
  deriving DecidableEq, Repr

namespace Address

/-- Reads the number of a zone. -/
def zone? (cs : List Char) : Option Nat :=
  if cs.isEmpty then none else (Numeral.digits 10 (UInt32.size - 1) .tooLarge cs 0).toOption

/-- Reads an address. -/
def parse? : List Char → Option Address
  | '[' :: rest => do
    guard (rest.getLast? = some ']')
    let inner := rest.dropLast
    let groups ← Host.eight? (inner.takeWhile (· ≠ '%'))
    match inner.dropWhile (· ≠ '%') with
    | [] => return .long groups 0
    | _ :: zone => return .long groups (← zone? zone)
  | cs => (Host.octets? cs).map .short

/-- The bytes that eight groups stand for, if they are a spelling of an address of four bytes. -/
def mapped? : List Nat → Option (List Nat)
  | [0, 0, 0, 0, 0, 0xFFFF, high, low] => some [high / 256, high % 256, low / 256, low % 256]
  | _ => none

/-- The address as text. -/
def text : Address → String
  | .short octets => Host.octetsText octets
  | .long groups zone =>
    let groupsText :=
      match mapped? groups with
      | some octets => "::ffff:" ++ Host.octetsText octets
      | none => Host.eightText groups
    "[" ++ groupsText ++ (if zone = 0 then "" else "%" ++ Numeral.natText zone) ++ "]"

end Address

/-- An address and a port. -/
structure Endpoint where
  address : Address
  port : Nat
  deriving DecidableEq, Repr

namespace Endpoint

/-- The endpoint at a host, if the host is an address. -/
def parse? (host : String) (port : Nat) : Option Endpoint := do return ⟨← Address.parse? host.toList, port⟩

/-- The endpoint as text. -/
def text (e : Endpoint) : String := e.address.text ++ ":" ++ Numeral.natText e.port

end Endpoint

end Readback.Http
