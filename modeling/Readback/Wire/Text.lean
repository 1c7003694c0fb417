import Readback.Text.Utf8
import Readback.Wire.Problem

/-!
# Strings in a message body

The part of a string behind its opening quote, read byte by byte. A string that matters is decoded: escapes stand for
characters, a surrogate pair for one, and the bytes must be UTF-8. A string that does not matter is only skipped, and
its escapes need only be complete.
-/

namespace Readback.Wire

/-- The double quote. -/
def quoteByte : UInt8 := 34

/-- The backslash. -/
def backslash : UInt8 := 92

/-- The value of a hexadecimal digit. -/
def hexValue? (b : UInt8) : Option Nat := Numeral.digit? 16 (Char.ofNat b.toNat)

/-- The character of an escape of two characters. -/
def simpleEscape? (b : UInt8) : Option UInt8 :=
  match Char.ofNat b.toNat with
  | '"' => some 34
  | '\\' => some 92
  | '/' => some 47
  | 'b' => some 8
  | 'f' => some 12
  | 'n' => some 10
  | 'r' => some 13
  | 't' => some 9
  | _ => none

/-- What part of a string is being read. -/
inductive Scan where
  /-- Plain text. -/
  | plain
  /-- The character behind a backslash. -/
  | escape
  /-- The hexadecimal digits of an escape: how many are left, the number so far unless a digit was wrong, and the first
  half of the surrogate pair that this is the second half of. -/
  | hex (left : Nat) (value : Option Nat) (lead : Option Nat)
  /-- Behind the first half of a surrogate pair. -/
  | lead (n : Nat)
  /-- Behind that half and a backslash. -/
  | leadEscape (n : Nat)

/-- The bytes of a code point that is no surrogate. -/
def utf8Bytes (n : Nat) : List UInt8 := String.utf8EncodeChar (Char.ofNat n)

/-- What the four digits of an escape stand for: bytes and the next state. -/
def unicodeEscape (n : Nat) : Option Nat → Option (List UInt8 × Scan)
  | none =>
    if 0xDC00 ≤ n ∧ n ≤ 0xDFFF then none
    else if 0xD800 ≤ n ∧ n ≤ 0xDBFF then some ([], .lead n)
    else some (utf8Bytes n, .plain)
  | some lead =>
    if 0xDC00 ≤ n ∧ n ≤ 0xDFFF then some (utf8Bytes ((lead - 0xD800) * 0x400 + (n - 0xDC00) + 0x10000), .plain)
    else none

/-- Reads the bytes of a string up to the closing quote, onto those read so far in reverse. -/
def stringBytes : Scan → List UInt8 → Reader (List UInt8)
  | _, _, [] => flawAt .endInString []
  | .plain, read, b :: rest =>
    if b = quoteByte then .ok (read.reverse, rest)
    else if b = backslash then stringBytes .escape read rest
    else if b < 32 then flawAt .controlCharacter rest
    else stringBytes .plain (b :: read) rest
  | .escape, read, b :: rest =>
    if b = 117 then stringBytes (.hex 4 (some 0) none) read rest
    else
      match simpleEscape? b with
      | some c => stringBytes .plain (c :: read) rest
      | none => flawAt .invalidEscape rest
  | .hex left value lead, read, b :: rest =>
    let value := do return (← value) * 16 + (← hexValue? b)
    if 1 < left then stringBytes (.hex (left - 1) value lead) read rest
    else
      match value with
      | none => flawAt .invalidEscape rest
      | some n =>
        match unicodeEscape n lead with
        | none => flawAt .loneSurrogate rest
        | some (bytes, next) => stringBytes next (bytes.reverse ++ read) rest
  | .lead n, read, b :: rest =>
    if b = backslash then stringBytes (.leadEscape n) read rest else flawAt .endOfHexEscape rest
  | .leadEscape n, read, b :: rest =>
    if b = 117 then stringBytes (.hex 4 (some 0) (some n)) read rest else flawAt .endOfHexEscape rest

/-- Reads a string behind its opening quote. -/
def string : Reader (List Char) := fun s => do
  let (bytes, rest) ← stringBytes .plain [] s
  match Text.utf8? bytes with
  | some cs => .ok (cs, rest)
  | none => flawAt .invalidCodePoint rest

/-- Skips a string behind its opening quote. -/
def skipString : Scan → List UInt8 → Except Stumble (List UInt8)
  | _, [] => flawAt .endInString []
  | .plain, b :: rest =>
    if b = quoteByte then .ok rest
    else if b = backslash then skipString .escape rest
    else if b < 32 then flawAt .controlCharacter (b :: rest)
    else skipString .plain rest
  | .hex left value lead, b :: rest =>
    let value := do return (← value) * 16 + (← hexValue? b)
    if 1 < left then skipString (.hex (left - 1) value lead) rest
    else if value.isSome then skipString .plain rest
    else flawAt .invalidEscape rest
  | _, b :: rest =>
    if b = 117 then skipString (.hex 4 (some 0) none) rest
    else if (simpleEscape? b).isSome then skipString .plain rest
    else flawAt .invalidEscape rest

end Readback.Wire
