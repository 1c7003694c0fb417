/-!
# Labels in ASCII

A label with characters beyond ASCII is written in letters, digits and hyphens. Its ASCII characters come first. Behind
the last hyphen stand the others in the order of their code points: each is a number that tells how many places to go on
from the one before it, if the places of a text are counted once for each code point. The numbers are written in digits
of base 36, the lower first, where a digit below a threshold ends the number. The thresholds adapt to the numbers.
-/

namespace Readback.Http.Punycode

/-! ## Digits -/

/-- The base of the digits. -/
def base : Nat := 36

/-- A digit: a small letter, or from 26 on a decimal digit. -/
def digitChar (d : Nat) : Char := Char.ofNat (if d < 26 then 'a'.toNat + d else '0'.toNat + (d - 26))

/-- The value of a digit. -/
def digit? (c : Char) : Option Nat :=
  if 'a' ≤ c ∧ c ≤ 'z' then some (c.toNat - 'a'.toNat)
  else if '0' ≤ c ∧ c ≤ '9' then some (c.toNat - '0'.toNat + 26)
  else none

/-- The threshold of the digit at a place; places are counted in steps of the base. -/
def threshold (bias place : Nat) : Nat := min 26 (max 1 (place - bias))

theorem one_le_threshold (bias place : Nat) : 1 ≤ threshold bias place := by
  unfold threshold
  omega

/-- Divides a number until it is small, and adds the base for each step. -/
def scaled (delta steps : Nat) : Nat :=
  if 455 < delta then scaled (delta / 35) (steps + base) else steps + base * delta / (delta + 38)
termination_by delta
decreasing_by omega

/-- The bias for the number behind `delta`, which was the first or the `count`-th. -/
def adapt (delta count : Nat) (first : Bool) : Nat :=
  let delta := if first then delta / 700 else delta / 2
  scaled (delta + delta / count) 0

/-! ## Writing -/

/-- The digits of a number from a place on. -/
def digits (bias place n : Nat) : List Char :=
  let t := threshold bias place
  if n < t then [digitChar n]
  else digitChar (t + (n - t) % (base - t)) :: digits bias (place + base) ((n - t) / (base - t))
termination_by n
decreasing_by
  have := one_le_threshold bias place
  exact Nat.lt_of_le_of_lt (Nat.div_le_self _ _) (by omega)

/-- What is written so far: the digits, how many characters stand for, and how far the next is away. -/
structure Encoding where
  written : List Char := []
  count : Nat
  delta : Nat := 0
  bias : Nat := 72
  /-- The code point that is looked for. -/
  point : Nat := 0x80

namespace Encoding

/-- Goes past a character of the label, and writes it if it is looked for. -/
def pass (basic : Nat) (e : Encoding) (c : Char) : Encoding :=
  if c.toNat < e.point then { e with delta := e.delta + 1 }
  else if c.toNat = e.point then
    { e with
      written := e.written ++ digits e.bias base e.delta
      bias := adapt e.delta (e.count + 1) (e.count = basic)
      count := e.count + 1
      delta := 0 }
  else e

/-- Writes all characters of a code point. -/
def turn (cs : List Char) (basic : Nat) (e : Encoding) (point : Nat) : Encoding :=
  let e := cs.foldl (pass basic) { e with delta := e.delta + (point - e.point) * (e.count + 1), point }
  { e with delta := e.delta + 1, point := point + 1 }

end Encoding

/-- The code points beyond ASCII in a label, each once, in increasing order. -/
def points (cs : List Char) : List Nat := ((cs.map Char.toNat).filter (0x80 ≤ ·)).mergeSort.eraseDups

/-- A label in ASCII. -/
def encode (cs : List Char) : List Char :=
  let basic := cs.filter (·.toNat < 0x80)
  let e := (points cs).foldl (Encoding.turn cs basic.length) { count := basic.length }
  basic ++ (if basic.isEmpty then [] else ['-']) ++ e.written

/-! ## Reading -/

/-- What is read so far: the label, and the number that is being read. -/
structure Decoding where
  label : List Char
  bias : Nat := 72
  point : Nat := 0x80
  /-- The place behind the last character that was put in. -/
  start : Nat := 0
  /-- The places to go on from the label's start. -/
  sum : Nat := 0
  /-- What the next digit counts. -/
  weight : Nat := 1
  /-- The place of the next digit. -/
  place : Nat := base

/-- Reads a digit; the last of a number puts a character into the label. -/
def Decoding.read (d : Decoding) (c : Char) : Option Decoding := do
  let digit ← digit? c
  let sum := d.sum + digit * d.weight
  let t := threshold d.bias d.place
  if t ≤ digit then return { d with sum, weight := d.weight * (base - t), place := d.place + base }
  else
    let length := d.label.length + 1
    let point := d.point + sum / length
    let start := sum % length
    guard point.isValidChar
    return {
      label := d.label.insertIdx start (Char.ofNat point)
      bias := adapt (sum - d.start) length (d.start = 0)
      point
      start := start + 1
      sum := start + 1 }

/-- The label that a text in ASCII stands for. -/
def decode? (cs : List Char) : Option (List Char) := do
  let behind := (cs.reverse.takeWhile (· ≠ '-')).reverse
  let basic := cs.take (cs.length - behind.length - 1)
  guard (basic ≠ [] ∨ ¬cs.contains '-')
  let d ← behind.foldlM Decoding.read { label := basic }
  guard (d.place = base)
  return d.label

end Readback.Http.Punycode
