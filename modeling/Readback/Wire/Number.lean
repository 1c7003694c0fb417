import Readback.Wire.Problem

/-!
# Numbers in a message body

A number is an integer of at most 64 bits or a floating-point number: one with a fraction or an exponent, one with more
digits than 64 bits hold, or a negative zero. The digits that fit 64 bits count; the others only move the point.
-/

namespace Readback.Wire

/-- A number as it was written. -/
inductive Number where
  | int (n : Int)
  | float (f : Float)

/-- The number in place of something else. -/
def Number.found : Number → Found
  | .int n => .int n
  | .float f => .float f

/-- Whether a byte is a decimal digit. -/
def isDigit (b : UInt8) : Bool := 48 ≤ b && b ≤ 57

/-- The value of a decimal digit. -/
def digitValue (b : UInt8) : Nat := b.toNat - 48

/-- Whether the next byte is a decimal digit. -/
def digitNext (s : List UInt8) : Bool := s.head?.any isDigit

/-- Whether the next byte opens an exponent. -/
def exponentNext (s : List UInt8) : Bool := s.head?.any fun b => b = 101 ∨ b = 69

/-- Reads digits onto a number for as long as it fits 64 bits. -/
def digits (acc : Nat) : List UInt8 → Nat × List UInt8
  | [] => (acc, [])
  | b :: rest =>
    if isDigit b ∧ acc * 10 + digitValue b < UInt64.size then digits (acc * 10 + digitValue b) rest
    else (acc, b :: rest)

/-- The floating-point number `f * 10 ^ exponent`, unless it is out of range. -/
def scale (f : Float) (exponent : Int) : Option Float :=
  if exponent.natAbs ≤ 308 then
    let power := Float.ofScientific 1 false exponent.natAbs
    let r := if 0 ≤ exponent then f * power else f / power
    if r.isInf then none else some r
  else if f == 0.0 then some f
  else if 0 ≤ exponent then none
  else scale (f / 1e308) (exponent + 308)
termination_by exponent.natAbs

/-- The floating-point number of the given parts. -/
def float (negative : Bool) (significand : Nat) (exponent : Int) : Reader Number := fun rest =>
  match scale (UInt64.ofNat significand).toFloat exponent with
  | some f => .ok (.float (if negative then -f else f), rest)
  | none => flawAt .numberOutOfRange rest

/-- Reads the digits of an exponent onto it, up to 31 bits; what exceeds them decides without the further digits. -/
def exponentDigits (negative : Bool) (significand : Nat) (point : Int) (sign : Int) (exponent : Nat) : Reader Number
  | [] => float negative significand (point + sign * exponent) []
  | b :: rest =>
    if isDigit b then
      if exponent * 10 + digitValue b < UInt32.size / 2 then
        exponentDigits negative significand point sign (exponent * 10 + digitValue b) rest
      else if significand ≠ 0 ∧ 0 < sign then flawAt .numberOutOfRange rest
      else .ok (.float (if negative then -0.0 else 0.0), rest.dropWhile isDigit)
    else float negative significand (point + sign * exponent) (b :: rest)

/-- Reads an exponent behind its letter. -/
def exponent (negative : Bool) (significand : Nat) (point : Int) : Reader Number := fun s =>
  let (sign, s) : Int × List UInt8 :=
    match s with
    | 43 :: rest => (1, rest)
    | 45 :: rest => (-1, rest)
    | _ => (1, s)
  match s with
  | [] => flawAt .endInValue []
  | b :: rest =>
    if isDigit b then exponentDigits negative significand point sign (digitValue b) rest
    else flawAt .invalidNumber rest

/-- Reads on behind the digits: an exponent, or the end of a floating-point number. -/
def afterDigits (negative : Bool) (significand : Nat) (point : Int) : Reader Number := fun s =>
  if exponentNext s then exponent negative significand point (s.drop 1) else float negative significand point s

/-- Reads a fraction behind its point. -/
def fraction (negative : Bool) (significand : Nat) (point : Int) : Reader Number := fun s =>
  let (significand, rest) := digits significand s
  let point := point - (s.length - rest.length : Nat)
  if digitNext rest then afterDigits negative significand point (rest.dropWhile isDigit)
  else if rest.length < s.length then afterDigits negative significand point rest
  else if s.isEmpty then flawAt .endInValue []
  else flawOn .invalidNumber s

/-- The number that ends behind an integer: a negative zero, or a negative number past 64 bits, is a floating-point
number. -/
def integer (negative : Bool) (n : Nat) : Number :=
  if !negative then .int n
  else if 0 < n ∧ n ≤ UInt64.size / 2 then .int (-n)
  else .float (-(UInt64.ofNat n).toFloat)

/-- Reads on behind the leading digits of a number. -/
def afterInteger (negative : Bool) (n : Nat) : Reader Number := fun s =>
  if digitNext s then
    let rest := s.dropWhile isDigit
    let point : Int := (s.length - rest.length : Nat)
    if rest.head? = some 46 then fraction negative n point (rest.drop 1) else afterDigits negative n point rest
  else if s.head? = some 46 then fraction negative n 0 (s.drop 1)
  else if exponentNext s then exponent negative n 0 (s.drop 1)
  else .ok (integer negative n, s)

/-- Reads a number behind its sign. A leading zero stands alone. -/
def unsignedNumber (negative : Bool) : Reader Number
  | [] => flawAt .endInValue []
  | 48 :: rest => if digitNext rest then flawOn .invalidNumber rest else afterInteger negative 0 rest
  | b :: rest =>
    if isDigit b then
      let (n, rest) := digits (digitValue b) rest
      afterInteger negative n rest
    else flawAt .invalidNumber rest

/-! ## Skipping -/

/-- Skips an exponent behind its letter. -/
def skipExponent (s : List UInt8) : Except Stumble (List UInt8) :=
  let s := if s.head?.any fun b => b = 43 ∨ b = 45 then s.drop 1 else s
  if digitNext s then .ok (s.dropWhile isDigit) else flawOn .invalidNumber s

/-- Skips a fraction behind its point. -/
def skipFraction (s : List UInt8) : Except Stumble (List UInt8) :=
  if digitNext s then
    let rest := s.dropWhile isDigit
    if exponentNext rest then skipExponent (rest.drop 1) else .ok rest
  else flawOn .invalidNumber s

/-- Skips on behind the leading digits of a number. -/
def skipAfterInteger (s : List UInt8) : Except Stumble (List UInt8) :=
  if s.head? = some 46 then skipFraction (s.drop 1)
  else if exponentNext s then skipExponent (s.drop 1)
  else .ok s

/-- Skips a number behind its sign. -/
def skipNumber : List UInt8 → Except Stumble (List UInt8)
  | 48 :: rest => if digitNext rest then flawOn .invalidNumber rest else skipAfterInteger rest
  | s => if digitNext s then skipAfterInteger (s.dropWhile isDigit) else flawOn .invalidNumber s

end Readback.Wire
