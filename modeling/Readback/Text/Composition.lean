import Readback.Text.Composition.Table

/-!
# Composition

A text in composed form: marks that can be part of the character before them are, and marks of different classes behind
one character stand in the order of their classes. Texts that differ only in how their characters are put together have
the same composed form.
-/

namespace Readback.Text

namespace Composition

/-! ## Syllables -/

/-- The first of the composed syllables. They are ordered by their initials, then their vowels, then their finals. -/
def firstSyllable : Nat := 0xAC00

/-- The number of vowels. -/
def vowelCount : Nat := 21

/-- The number of finals, and one for a syllable without any. -/
def finalCount : Nat := 28

/-- The number of composed syllables. -/
def syllableCount : Nat := 19 * vowelCount * finalCount

/-- The initial, the vowel and the final of a composed syllable. -/
def syllableParts (n : Nat) : List Nat :=
  let i := n - firstSyllable
  let final := i % finalCount
  [0x1100 + i / (vowelCount * finalCount), 0x1161 + i / finalCount % vowelCount] ++
    if final = 0 then [] else [0x11A7 + final]

/-- The syllable composed of an initial and a vowel, or of a syllable without a final and one. -/
def syllable? (a b : Nat) : Option Nat :=
  if 0x1100 ≤ a ∧ a < 0x1113 ∧ 0x1161 ≤ b ∧ b < 0x1161 + vowelCount then
    some (firstSyllable + ((a - 0x1100) * vowelCount + (b - 0x1161)) * finalCount)
  else if firstSyllable ≤ a ∧ a < firstSyllable + syllableCount ∧ (a - firstSyllable) % finalCount = 0 ∧
      0x11A8 ≤ b ∧ b < 0x11A7 + finalCount then some (a + (b - 0x11A7))
  else none

/-! ## Parts -/

/-- The class of a mark; nought for other characters. -/
def markClass (n : Nat) : Nat := ((markClasses.find? fun (_, s) => s.holds n).map (·.1)).getD 0

/-- The parts of a character, itself composed of at most `depth` marks. -/
def parts : Nat → Nat → List Nat
  | 0, n => [n]
  | depth + 1, n =>
    if firstSyllable ≤ n ∧ n < firstSyllable + syllableCount then syllableParts n
    else
      match composites.find? (·.whole = n) with
      | some c => parts depth c.base ++ [c.mark]
      | none => [n]

/-- Puts a mark in front of marks, behind those of a lower class. -/
def insertMark (n : Nat) : List Nat → List Nat
  | [] => [n]
  | m :: ms => if 0 < markClass m ∧ markClass m < markClass n then m :: insertMark n ms else n :: m :: ms

/-- The parts of a text, marks in the order of their classes. -/
def decompose (ns : List Nat) : List Nat := (ns.flatMap (parts 4)).foldr insertMark []

/-- What two characters are composed to. -/
def pair? (a b : Nat) : Option Nat :=
  (syllable? a b).or ((composites.find? fun c => c.base = a ∧ c.mark = b).map (·.whole))

/-! ## Composing -/

/-- A text composed so far. -/
structure Composed where
  /-- What is settled, in reverse. -/
  settled : List Nat := []
  /-- The character that marks can still become part of. -/
  base : Option Nat := none
  /-- The marks behind it that did not, in reverse. -/
  marks : List Nat := []

namespace Composed

/-- All characters, in reverse. -/
def all (c : Composed) : List Nat := c.marks ++ c.base.toList ++ c.settled

/-- Whether a mark between the base and the next character keeps them apart. -/
def isBlocked (c : Composed) (n : Nat) : Bool := c.marks.head?.any fun m => markClass n ≤ markClass m

/-- Adds a character. -/
def add (c : Composed) (n : Nat) : Composed :=
  match c.base.bind fun b => if c.isBlocked n then none else pair? b n with
  | some whole => { c with base := some whole }
  | none =>
    if markClass n = 0 then { settled := c.all, base := some n, marks := [] }
    else { c with marks := n :: c.marks }

end Composed

/-- The composed form of a text given by its parts. -/
def compose (ns : List Nat) : List Nat := (ns.foldl Composed.add {}).all.reverse

end Composition

/-- The composed form of a text. One in ASCII is composed already. -/
def composed (cs : List Char) : List Char :=
  if cs.all (·.toNat < 0x80) then cs
  else (Composition.compose (Composition.decompose (cs.map Char.toNat))).map Char.ofNat

end Readback.Text
