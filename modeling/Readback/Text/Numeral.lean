/-!
# Numerals

Integers written as text: the decimal spelling of a number, and the reading of a numeral in a base up to sixteen under
a bound. A numeral is an optional sign followed by one or more digits; leading zeros are allowed, separators are not.
Reading goes from left to right, so the first character that is no digit, or that takes the number past its bound,
decides the complaint.
-/

namespace Readback.Numeral

/-! ## Writing -/

/-- The decimal digits of a natural number, without leading zeros. -/
def natText (n : Nat) : String := String.ofList (Nat.toDigits 10 n)

/-- The decimal digits of an integer, after a minus sign if it is negative. -/
def intText : Int → String
  | .ofNat n => natText n
  | .negSucc n => "-" ++ natText (n + 1)

/-! ## Reading -/

/-- Why a text is no numeral of the wanted kind. -/
inductive Problem where
  | empty
  | invalidDigit
  | tooLarge
  | tooSmall
  deriving DecidableEq, Repr

/-- The complaint about a numeral. -/
def Problem.message : Problem → String
  | .empty => "cannot parse integer from empty string"
  | .invalidDigit => "invalid digit found in string"
  | .tooLarge => "number too large to fit in target type"
  | .tooSmall => "number too small to fit in target type"

/-- The value of a digit below `base`; letters of either case stand for ten and more. -/
def digit? (base : Nat) (c : Char) : Option Nat :=
  let d :=
    if '0' ≤ c ∧ c ≤ '9' then c.toNat - '0'.toNat
    else if 'a' ≤ c ∧ c ≤ 'f' then c.toNat - 'a'.toNat + 10
    else if 'A' ≤ c ∧ c ≤ 'F' then c.toNat - 'A'.toNat + 10
    else base
  if d < base then some d else none

/-- Reads digits onto `acc`, complaining `excess` as soon as the number exceeds `bound`. -/
def digits (base bound : Nat) (excess : Problem) : List Char → Nat → Except Problem Nat
  | [], acc => .ok acc
  | c :: cs, acc =>
    match digit? base c with
    | none => .error .invalidDigit
    | some d => if bound < acc * base + d then .error excess else digits base bound excess cs (acc * base + d)

/-- Reads one or more digits; a missing digit is an invalid one. -/
def someDigits (base bound : Nat) (excess : Problem) : List Char → Except Problem Nat
  | [] => .error .invalidDigit
  | cs => digits base bound excess cs 0

/-- Reads a numeral that may carry a plus sign and is at most `bound`. -/
def unsigned (base bound : Nat) : List Char → Except Problem Nat
  | [] => .error .empty
  | '+' :: cs => someDigits base bound .tooLarge cs
  | cs => someDigits base bound .tooLarge cs

/-- Reads a decimal numeral that may carry either sign and lies between `-low` and `high`. -/
def signed (low high : Nat) : List Char → Except Problem Int
  | [] => .error .empty
  | '+' :: cs => (someDigits 10 high .tooLarge cs).map Int.ofNat
  | '-' :: cs => (someDigits 10 low .tooSmall cs).map fun n => -Int.ofNat n
  | cs => (someDigits 10 high .tooLarge cs).map Int.ofNat

/-- Reads an unsigned 64-bit decimal number. -/
def uint64 (text : String) : Except Problem UInt64 :=
  (unsigned 10 (UInt64.size - 1) text.toList).map UInt64.ofNat

/-- Reads a signed 64-bit decimal number. -/
def int64 (text : String) : Except Problem Int64 :=
  (signed (UInt64.size / 2) (UInt64.size / 2 - 1) text.toList).map Int64.ofInt

end Readback.Numeral
