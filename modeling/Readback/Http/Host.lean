import Readback.Http.DomainName
import Readback.Text.Numeral
import Readback.Text.Utf8

/-!
# Hosts

The host of an address in standard form. A host whose last part is a number stands for an address of four bytes, in
whatever way its parts are spelled; one in brackets is an address of eight groups. Every other host is a name, and is
written in ASCII.
-/

namespace Readback.Http

/-- Why a text is no host. -/
inductive HostProblem where
  | empty
  | forbidden
  | invalidShort
  | invalidLong
  deriving DecidableEq, Repr

/-- The problem in words. -/
def HostProblem.message : HostProblem → String
  | .empty => "empty host"
  | .forbidden => "invalid international domain name"
  | .invalidShort => "invalid IPv4 address"
  | .invalidLong => "invalid IPv6 address"

namespace Host

/-! ## Addresses of four bytes -/

/-- Digits in a base; none at all stand for zero. -/
def digits? (base : Nat) (cs : List Char) : Option Nat :=
  cs.foldlM (fun n c => (Numeral.digit? base c).map (n * base + ·)) 0

/-- A part of an address: hexadecimal after `0x`, octal after another leading zero, else decimal. -/
def part? : List Char → Option Nat
  | [] => none
  | '0' :: 'x' :: cs => digits? 16 cs
  | '0' :: 'X' :: cs => digits? 16 cs
  | '0' :: c :: cs => digits? 8 (c :: cs)
  | cs => digits? 10 cs

/-- The parts of a host between its dots; a dot at the end opens no part. -/
def parts (cs : List Char) : List (List Char) :=
  let all := cs.splitOnP (· = '.')
  if all.getLast? = some [] then all.dropLast else all

/-- Whether the last part of a host is a number, or nothing but digits. -/
def endsInNumber (cs : List Char) : Bool :=
  (parts cs).getLast?.any fun last => (!last.isEmpty && last.all Char.isDigit) || (part? last).isSome

/-- The bytes of an address: all parts but the last give one each, and the last gives those left. -/
def bytes? (cs : List Char) : Option (List Nat) := do
  let numbers ← (parts cs).mapM part?
  let last ← numbers.getLast?
  let first := numbers.dropLast
  if 3 < first.length ∨ first.any (255 < ·) ∨ Nat.pow 256 (4 - first.length) ≤ last then none
  else
    let rest := (List.range (4 - first.length)).reverse.map fun i => last / Nat.pow 256 i % 256
    return first ++ rest

/-! ## Addresses of eight groups -/

/-- A decimal number below 256 without leading zeros. -/
def octet? (cs : List Char) : Option Nat :=
  if cs.isEmpty ∨ (cs.head? = some '0' ∧ 1 < cs.length) then none
  else (Numeral.digits 10 255 .tooLarge cs 0).toOption

/-- Four decimal bytes between dots. -/
def octets? (cs : List Char) : Option (List Nat) := do
  let octets ← (cs.splitOnP (· = '.')).mapM octet?
  if octets.length = 4 then some octets else none

/-- Four bytes in decimal between dots. -/
def octetsText (octets : List Nat) : String := ".".intercalate (octets.map Numeral.natText)

/-- The two groups that four decimal bytes stand for. -/
def dotted? (cs : List Char) : Option (List Nat) := do
  match ← octets? cs with
  | [a, b, c, d] => return [a * 256 + b, c * 256 + d]
  | _ => none

/-- A group of one to four hexadecimal digits. -/
def group? (cs : List Char) : Option Nat := if cs.isEmpty ∨ 4 < cs.length then none else digits? 16 cs

/-- Groups between colons, the last two of which can be written as four decimal bytes. -/
def groups? (cs : List Char) : Option (List Nat) :=
  if cs.isEmpty then some []
  else
    let all := cs.splitOnP (· = ':')
    match all.getLast?.bind dotted? with
    | some two => do return (← all.dropLast.mapM group?) ++ two
    | none => all.mapM group?

/-- The parts before and behind the first double colon. -/
def splitGap : List Char → Option (List Char × List Char)
  | ':' :: ':' :: rest => some ([], rest)
  | [] => none
  | c :: rest => (splitGap rest).map fun (before, behind) => (c :: before, behind)

/-- The eight groups of an address; a double colon stands for one or more groups of zero. -/
def eight? (cs : List Char) : Option (List Nat) := do
  match splitGap cs with
  | none =>
    let groups ← groups? cs
    if groups.length = 8 then some groups else none
  | some (before, behind) =>
    if before.contains '.' then none
    else
      let before ← groups? before
      let behind ← groups? behind
      if before.length + behind.length < 8 then
        return before ++ List.replicate (8 - before.length - behind.length) 0 ++ behind
      else none

/-- How many zeros a list starts with. -/
def zeros (groups : List Nat) : Nat := (groups.takeWhile (· = 0)).length

/-- The length of the longest run of zeros. -/
def longestZeros : List Nat → Nat
  | [] => 0
  | g :: rest => max (zeros (g :: rest)) (longestZeros rest)

/-- Groups in hexadecimal between colons. -/
def groupsText (groups : List Nat) : String := ":".intercalate (groups.map fun g => String.ofList (Nat.toDigits 16 g))

/-- An address of eight groups: the first of the longest runs of two or more zeros is left out. -/
def eightText (groups : List Nat) : String :=
  let longest := longestZeros groups
  if longest < 2 then groupsText groups
  else
    let start := ((List.range groups.length).find? fun i => zeros (groups.drop i) = longest).getD 0
    groupsText (groups.take start) ++ "::" ++ groupsText (groups.drop (start + longest))

/-! ## Reading -/

/-- The bytes of a text in which some are written in hexadecimal behind a percent sign. -/
def plainBytes : List Char → List UInt8
  | [] => []
  | '%' :: a :: b :: cs =>
    match Numeral.digit? 16 a, Numeral.digit? 16 b with
    | some high, some low => UInt8.ofNat (high * 16 + low) :: plainBytes cs
    | _, _ => String.utf8EncodeChar '%' ++ plainBytes (a :: b :: cs)
  | c :: cs => String.utf8EncodeChar c ++ plainBytes cs

/-- Reads a name and writes it in ASCII. -/
def name? (cs : List Char) : Option (List Char) := do DomainName.toAscii? (← Text.utf8? (plainBytes cs))

/-- Reads a host and puts it into standard form. -/
def read (cs : List Char) : Except HostProblem String :=
  match cs with
  | [] => .error .empty
  | '[' :: rest =>
    if rest.getLast? = some ']' then
      match eight? rest.dropLast with
      | some groups => .ok ("[" ++ eightText groups ++ "]")
      | none => .error .invalidLong
    else .error .invalidLong
  | _ =>
    match name? cs with
    | none => .error .forbidden
    | some [] => .error .empty
    | some name =>
      if endsInNumber name then
        match bytes? name with
        | some bytes => .ok (octetsText bytes)
        | none => .error .invalidShort
      else .ok (String.ofList name)

end Host

end Readback.Http
