/-!
# UTF-8

The characters that a sequence of bytes stands for, if it is well formed: no byte out of place, no longer form than
needed, no surrogate, nothing past the last code point.
-/

namespace Readback.Text

/-- The bytes of an ASCII text. -/
def ascii (s : String) : List UInt8 := s.toList.map fun c => UInt8.ofNat c.toNat

/-- The six bits of a continuation byte. -/
def continuation? (b : UInt8) : Option Nat := if 0x80 ≤ b ∧ b < 0xC0 then some (b.toNat - 0x80) else none

/-- The character of a code point from `least` on, unless it is a surrogate. -/
def scalar? (least n : Nat) : Option Char :=
  if least ≤ n ∧ n ≤ 0x10FFFF ∧ ¬(0xD800 ≤ n ∧ n ≤ 0xDFFF) then some (Char.ofNat n) else none

/-- The characters of well-formed bytes. -/
def utf8? : List UInt8 → Option (List Char)
  | [] => some []
  | a :: rest =>
    if a < 0x80 then (Char.ofNat a.toNat :: ·) <$> utf8? rest
    else if a < 0xE0 then
      match rest with
      | b :: rest => do
        let y ← continuation? b
        let c ← if 0xC0 ≤ a then scalar? 0x80 ((a.toNat - 0xC0) * 64 + y) else none
        (c :: ·) <$> utf8? rest
      | _ => none
    else if a < 0xF0 then
      match rest with
      | b :: c :: rest => do
        let y ← continuation? b
        let z ← continuation? c
        let c ← scalar? 0x800 (((a.toNat - 0xE0) * 64 + y) * 64 + z)
        (c :: ·) <$> utf8? rest
      | _ => none
    else
      match rest with
      | b :: c :: d :: rest => do
        let y ← continuation? b
        let z ← continuation? c
        let w ← continuation? d
        let c ← scalar? 0x10000 ((((a.toNat - 0xF0) * 64 + y) * 64 + z) * 64 + w)
        (c :: ·) <$> utf8? rest
      | _ => none

end Readback.Text
