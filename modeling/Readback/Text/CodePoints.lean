import Readback.Text.Numeral

/-!
# Sets of code points

A set of code points is a sequence of ranges, each with its first and last member. Tables write it as text: the ranges
in hexadecimal, with a hyphen between first and last, and with blanks between them.
-/

namespace Readback.Text

/-- Whether a character lies between two code points. -/
def between (first last : Nat) (c : Char) : Bool := first ≤ c.toNat && c.toNat ≤ last

/-- Code points by ranges, each with its first and last member. -/
structure CodePoints where
  ranges : Array (Nat × Nat)
  deriving Repr

namespace CodePoints

/-- Whether a code point lies in one of the ranges. -/
def holds (s : CodePoints) (n : Nat) : Bool := s.ranges.any fun (first, last) => first ≤ n && n ≤ last

/-- Whether a character lies in one of the ranges. -/
def contains (s : CodePoints) (c : Char) : Bool := s.holds c.toNat

/-- A number in hexadecimal. -/
def hex (digits : List Char) : Nat := digits.foldl (fun n c => n * 16 + (Numeral.digit? 16 c).getD 0) 0

/-- A range: its first and last member, or the only one. -/
def range (text : List Char) : Nat × Nat :=
  match text.splitOnP (· = '-') with
  | [first, last] => (hex first, hex last)
  | _ => (hex text, hex text)

/-- The words of a table: what stands between its blanks. -/
def words (text : String) : List (List Char) := (text.toList.splitOnP Char.isWhitespace).filter (!·.isEmpty)

/-- The set that a text describes. -/
def ofText (text : String) : CodePoints := ⟨((words text).map range).toArray⟩

end CodePoints

end Readback.Text
