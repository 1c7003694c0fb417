import Readback.Text.Numeral

/-!
# Shortest decimals

The decimal with the fewest digits that reads back as a given binary floating-point number, nearest to it among those.
A number is `mantissa * 2 ^ exponent`; the reals that round to it form an interval, whose ends belong to it if the
mantissa is even. For each number of digits, the two decimals around the number are tested in exact arithmetic.
-/

namespace Readback.Shortest

/-- A positive binary floating-point number. `narrow` says that the next smaller number is only half as far away as the
next larger one. -/
structure Binary where
  mantissa : Nat
  exponent : Int
  narrow : Bool

/-- The parts of a 64-bit number that is neither zero nor infinite nor no number; the sign is left out. -/
def Binary.ofBits (bits : UInt64) : Binary :=
  let fraction := bits.toNat % (1 <<< 52)
  let power : Nat := bits.toNat / (1 <<< 52) % (1 <<< 11)
  if power = 0 then ⟨fraction, -1074, false⟩
  else ⟨fraction + (1 <<< 52), (power : Int) - 1075, fraction = 0 ∧ 1 < power⟩

/-- A fraction, scaled so that the number, its interval and a decimal can be compared as integers. -/
structure Scaled where
  low : Nat
  value : Nat
  high : Nat
  closed : Bool
  /-- One unit of the last decimal place. -/
  unit : Nat

/-- The number and its interval in units of a common denominator, for decimals in steps of `10 ^ place`. -/
def Binary.scale (b : Binary) (place : Int) : Scaled :=
  let up := (1 <<< (b.exponent - 2).toNat) * Nat.pow 10 (-place).toNat
  let down := (1 <<< (2 - b.exponent).toNat) * Nat.pow 10 place.toNat
  let m := 4 * b.mantissa
  ⟨(m - if b.narrow then 1 else 2) * up, m * up, (m + 2) * up, b.mantissa % 2 = 0, down⟩

/-- Whether a decimal lies in the interval. -/
def Scaled.holds (s : Scaled) (digits : Nat) : Bool :=
  let x := digits * s.unit
  if s.closed then s.low ≤ x && x ≤ s.high else s.low < x && x < s.high

/-- The decimal in the interval that is nearest to the number; of two as near, the even one. -/
def Scaled.nearest? (s : Scaled) : Option Nat :=
  let below := s.value / s.unit
  let above := below + 1
  let nearBelow := 2 * (s.value - below * s.unit)
  match s.holds below && below ≠ 0, s.holds above with
  | false, false => none
  | true, false => some below
  | false, true => some above
  | true, true =>
    some (if nearBelow < s.unit ∨ (nearBelow = s.unit ∧ below % 2 = 0) then below else above)

/-- The first hit, from the coarsest place down. -/
def Binary.search (b : Binary) : Nat → Int → Nat × Int
  | 0, place => ((b.scale place).value / (b.scale place).unit, place)
  | n + 1, place =>
    match (b.scale place).nearest? with
    | some digits => (digits, place)
    | none => b.search n (place - 1)

/-- The number of decimal digits before the point, at least; negative for small numbers. -/
def Binary.magnitude (b : Binary) : Int := (b.exponent + b.mantissa.log2 + 1) * 30103 / 100000 + 1

/-- The digits of the shortest decimal, without trailing zeros, and the place of the last one. -/
def Binary.shortest (b : Binary) : Nat × Int := b.search 20 b.magnitude

/-- The text of a finite number: plain for exponents from -5 to 15, else with an exponent. -/
def text (f : Float) : String :=
  let sign := if f.toBits.toNat / (1 <<< 63) = 1 then "-" else ""
  if f.toBits.toNat % (1 <<< 63) = 0 then sign ++ "0.0"
  else
    let (value, place) := (Binary.ofBits f.toBits).shortest
    let digits := Nat.toDigits 10 value
    let point := digits.length + place
    let body :=
      if 0 ≤ place ∧ point ≤ 16 then String.ofList (digits ++ List.replicate place.toNat '0') ++ ".0"
      else if 0 < point ∧ point ≤ 16 then
        String.ofList (digits.take point.toNat) ++ "." ++ String.ofList (digits.drop point.toNat)
      else if -5 < point ∧ point ≤ 0 then
        "0." ++ String.ofList (List.replicate (-point).toNat '0' ++ digits)
      else
        let tail := if digits.length = 1 then "" else "." ++ String.ofList (digits.drop 1)
        String.ofList (digits.take 1) ++ tail ++ "e" ++ Numeral.intText (point - 1)
    sign ++ body

end Readback.Shortest
