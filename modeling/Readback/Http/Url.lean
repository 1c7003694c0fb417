import Readback.Http.Host

/-!
# Addresses

The address of a resource: scheme, host, port and path. Reading puts it into a standard form: the host is put into its
own, the usual port of the scheme is left out, steps to the same or the parent folder are taken, and characters that may
not stand in a part are written by their bytes.
-/

namespace Readback.Http

/-- Why a text is no address. -/
inductive UrlProblem where
  | notAbsolute
  | host (problem : HostProblem)
  | invalidPort
  deriving DecidableEq, Repr

/-- The problem in words. -/
def UrlProblem.message : UrlProblem → String
  | .notAbsolute => "relative URL without a base"
  | .host problem => problem.message
  | .invalidPort => "invalid port number"

/-- An address in standard form. -/
structure Url where
  scheme : String
  host : String
  /-- The port, unless it is the usual one of the scheme. -/
  port : Option Nat
  path : String
  /-- The query, with the mark that opens it. -/
  query : String
  /-- The fragment, with the mark that opens it. -/
  fragment : String
  deriving DecidableEq, Repr

namespace Url

/-- The usual port of a scheme. -/
def usualPort : String → Option Nat
  | "http" => some 80
  | "https" => some 443
  | _ => none

/-- The scheme and the host, as they start every address there. -/
def origin (u : Url) : String :=
  u.scheme ++ "://" ++ u.host ++ (u.port.map fun p => ":" ++ Numeral.natText p).getD ""

/-- What a request to the host asks for. -/
def resource (u : Url) : String := u.path ++ u.query

/-- The address as text. -/
def text (u : Url) : String := u.origin ++ u.resource ++ u.fragment

/-- Whether a request can carry the address: it is not too long, and its host has none of the signs that may stand in a
name but not in a request. -/
def fitsRequest (u : Url) : Bool :=
  !u.host.toList.any ("\"`\x7b\x7d".toList.contains ·) && u.text.utf8ByteSize ≤ 65534

/-! ## Paths -/

/-- Two hexadecimal digits in capital letters. -/
def hexByte (b : UInt8) : List Char :=
  [Nat.digitChar (b.toNat / 16), Nat.digitChar (b.toNat % 16)].map Char.toUpper

/-- A character as it stands in a part: by its bytes if it is no printable ASCII character or one of `reserved`. -/
def encodeChar (reserved : String) (c : Char) : List Char :=
  if c.toNat ≤ 0x20 ∨ 0x7F ≤ c.toNat ∨ reserved.toList.contains c then
    (String.utf8EncodeChar c).flatMap fun b => '%' :: hexByte b
  else [c]

/-- The characters that may not stand in a path. -/
def reservedInPath : String := "\"#<>?`\x7b\x7d"

/-- The characters that may not stand in a query. -/
def reservedInQuery : String := "\"#<>'"

/-- The characters that may not stand in a fragment. -/
def reservedInFragment : String := "\"<>`"

/-- The parts of a path between its slashes. -/
def segments (cs : List Char) : List (List Char) := cs.splitOnP (· = '/')

/-- A segment with the dots that are written by their bytes. -/
def plainDots : List Char → List Char
  | '%' :: '2' :: 'e' :: cs => '.' :: plainDots cs
  | '%' :: '2' :: 'E' :: cs => '.' :: plainDots cs
  | c :: cs => c :: plainDots cs
  | [] => []

/-- The step to the same folder. -/
def isHere (segment : List Char) : Bool := plainDots segment = ['.']

/-- The step to the parent folder. -/
def isParent (segment : List Char) : Bool := plainDots segment = ['.', '.']

/-- Takes the steps of a path: the segments kept so far in reverse, and those to come. -/
def resolve : List (List Char) → List (List Char) → List (List Char)
  | kept, [] => kept.reverse
  | kept, [last] =>
    if isHere last then ([] :: kept).reverse
    else if isParent last then ([] :: kept.drop 1).reverse
    else (last :: kept).reverse
  | kept, segment :: rest =>
    if isHere segment then resolve kept rest
    else if isParent segment then resolve (kept.drop 1) rest
    else resolve (segment :: kept) rest

/-- The standard form of a path, which starts with a slash. -/
def normalize (cs : List Char) : String :=
  let behindSlash := if cs.head? = some '/' then cs.drop 1 else cs
  String.ofList ((resolve [] (segments behindSlash)).flatMap fun s =>
    '/' :: s.flatMap (encodeChar reservedInPath))

/-! ## Reading -/

/-- The host of the part between the scheme and the path, and what follows it; colons in brackets are part of it. -/
def splitHost : Bool → List Char → List Char × List Char
  | _, [] => ([], [])
  | inBrackets, c :: cs =>
    if c = ':' ∧ !inBrackets then ([], c :: cs)
    else
      let (host, rest) := splitHost (c = '[' || (inBrackets && c ≠ ']')) cs
      (c :: host, rest)

/-- Reads a port behind its colon; the usual one of the scheme is left out. -/
def readPort (scheme : String) : List Char → Except UrlProblem (Option Nat)
  | [] | [':'] => .ok none
  | _ :: digits =>
    if !digits.all Char.isDigit then .error .invalidPort
    else
      match Numeral.digits 10 65535 .tooLarge digits 0 with
      | .ok p => .ok (if some p = usualPort scheme then none else some p)
      | .error _ => .error .invalidPort

/-- The host and the port of the part between the scheme and the path; the name of a user is dropped. -/
def readAuthority (scheme : String) (cs : List Char) : Except UrlProblem (String × Option Nat) := do
  let (host, port) := splitHost false (cs.reverse.takeWhile (· ≠ '@')).reverse
  let host ← (Host.read host).mapError .host
  return (host, ← readPort scheme port)

/-- Reads the part of an address behind the scheme's colon. -/
def readAfterScheme (scheme : String) (cs : List Char) : Except UrlProblem Url := do
  let isSlash (c : Char) : Bool := c = '/' || c = '\\'
  let cs := cs.dropWhile isSlash
  let opensExtra (c : Char) : Bool := c = '?' || c = '#'
  let endsHost (c : Char) : Bool := isSlash c || opensExtra c
  let (host, port) ← readAuthority scheme (cs.takeWhile (!endsHost ·))
  let rest := cs.dropWhile (!endsHost ·)
  let path := normalize ((rest.takeWhile (!opensExtra ·)).map fun c => if isSlash c then '/' else c)
  let extra := rest.dropWhile (!opensExtra ·)
  let query :=
    match extra.takeWhile (· ≠ '#') with
    | mark :: query => mark :: query.flatMap (encodeChar reservedInQuery)
    | [] => []
  let fragment :=
    match extra.dropWhile (· ≠ '#') with
    | mark :: fragment => mark :: fragment.flatMap (encodeChar reservedInFragment)
    | [] => []
  return ⟨scheme, host, port, path, String.ofList query, String.ofList fragment⟩

/-- Reads an address. -/
def parse (text : String) : Except UrlProblem Url :=
  let cs := text.toList.filter fun c => c ≠ '\t' ∧ c ≠ '\n' ∧ c ≠ '\r'
  let scheme := String.ofList ((cs.takeWhile (· ≠ ':')).map Char.toLower)
  match cs.dropWhile (· ≠ ':') with
  | _ :: rest => if (usualPort scheme).isSome then readAfterScheme scheme rest else .error .notAbsolute
  | [] => .error .notAbsolute

/-- The folder of a path: up to its last slash. -/
def folder (path : String) : List Char := (path.toList.reverse.dropWhile (· ≠ '/')).reverse

/-- Reads an address that may leave out what it shares with this one. -/
def join (u : Url) (reference : String) : Except UrlProblem Url :=
  match parse reference, reference.toList with
  | .ok v, _ => .ok v
  | .error _, '/' :: '/' :: _ => parse (u.scheme ++ ":" ++ reference)
  | .error _, '/' :: _ => parse (u.origin ++ reference)
  | .error _, '?' :: _ => parse (u.origin ++ u.path ++ reference)
  | .error _, _ => parse (u.origin ++ String.ofList (folder u.path) ++ reference)

end Url

end Readback.Http
