import Readback.Error
import Readback.Text.Blank
import Readback.Text.Numeral

/-!
# Seeds

A seed fixes the whole sequence of generated values, so a failing run is replayed by passing its seed again. Seeds are
written in decimal, and read in decimal or, after `0x`, in hexadecimal.
-/

namespace Readback

/-- The start of a generator's random sequence. -/
structure Seed where
  value : UInt64
  deriving DecidableEq, Repr

namespace Seed

/-- A seed in decimal. -/
def text (s : Seed) : String := Numeral.natText s.value.toNat

/-- Reads the characters of a numeral: hexadecimal after `0x` or `0X`, else decimal. -/
def numeral? : List Char → Except Numeral.Problem Nat
  | '0' :: 'x' :: cs => Numeral.unsigned 16 (UInt64.size - 1) cs
  | '0' :: 'X' :: cs => Numeral.unsigned 16 (UInt64.size - 1) cs
  | cs => Numeral.unsigned 10 (UInt64.size - 1) cs

/-- Reads a seed, ignoring blanks at both ends; a refusal quotes the text as it was given. -/
def parse (input : String) : Except SetupError Seed :=
  match numeral? (Text.trimChars input.toList) with
  | .ok n => .ok ⟨UInt64.ofNat n⟩
  | .error _ => .error (.invalidSeed input)

end Seed

end Readback
