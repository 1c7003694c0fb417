import Readback.Json.Basic
import Readback.Text.Numeral

/-!
# Printing JSON

A value is printed as the concatenation of its pieces, either on one line without blanks or over several lines with two
blanks of indentation for each level. Quotes, backslashes and control characters are escaped in strings; all other
characters stand for themselves.
-/

namespace Readback.Json

/-! ## Strings -/

/-- The digit of a number below sixteen, in lower case. -/
def hexDigit (n : Nat) : Char := Nat.digitChar (n % 16)

/-- A character as it stands between the quotes of a string. -/
def escapeChar (c : Char) : List Char :=
  if c = '"' then ['\\', '"']
  else if c = '\\' then ['\\', '\\']
  else if c = '\n' then ['\\', 'n']
  else if c = '\r' then ['\\', 'r']
  else if c = '\t' then ['\\', 't']
  else if c.toNat = 8 then ['\\', 'b']
  else if c.toNat = 12 then ['\\', 'f']
  else if c.toNat < 32 then ['\\', 'u', '0', '0', hexDigit (c.toNat / 16), hexDigit c.toNat]
  else [c]

/-- A string between quotes. -/
def quote (s : String) : String := String.ofList ('"' :: s.toList.flatMap escapeChar ++ ['"'])

/-! ## One line -/

mutual

/-- The pieces of a value printed on one line. -/
def pieces : Json → List String
  | .null => ["null"]
  | .bool true => ["true"]
  | .bool false => ["false"]
  | .int n => [Numeral.intText n]
  | .str s => [quote s]
  | .arr [] => ["[]"]
  | .arr (item :: items) => "[" :: pieces item ++ itemPieces items ++ ["]"]
  | .obj [] => ["\x7b\x7d"]
  | .obj ((name, value) :: fields) => "\x7b" :: quote name :: ":" :: pieces value ++ fieldPieces fields ++ ["\x7d"]

/-- The pieces of the items after the first. -/
def itemPieces : List Json → List String
  | [] => []
  | item :: items => "," :: pieces item ++ itemPieces items

/-- The pieces of the fields after the first. -/
def fieldPieces : List (String × Json) → List String
  | [] => []
  | (name, value) :: fields => "," :: quote name :: ":" :: pieces value ++ fieldPieces fields

end

/-- A value on one line without blanks. -/
def compact (j : Json) : String := String.join j.pieces

/-! ## Indented -/

/-- A line feed and the indentation of a level. -/
def newline (level : Nat) : String := "\n" ++ "".pushn ' ' (2 * level)

mutual

/-- The pieces of a value printed over several lines, from a line indented to `level`. -/
def prettyPieces (level : Nat) : Json → List String
  | .null => ["null"]
  | .bool true => ["true"]
  | .bool false => ["false"]
  | .int n => [Numeral.intText n]
  | .str s => [quote s]
  | .arr [] => ["[]"]
  | .arr (item :: items) =>
    "[" :: newline (level + 1) :: prettyPieces (level + 1) item ++ prettyItems (level + 1) items ++ [newline level, "]"]
  | .obj [] => ["\x7b\x7d"]
  | .obj ((name, value) :: fields) =>
    "\x7b" :: newline (level + 1) :: quote name :: ": " :: prettyPieces (level + 1) value ++
      prettyFields (level + 1) fields ++ [newline level, "\x7d"]

/-- The pieces of the items after the first, each on lines of its own. -/
def prettyItems (level : Nat) : List Json → List String
  | [] => []
  | item :: items => "," :: newline level :: prettyPieces level item ++ prettyItems level items

/-- The pieces of the fields after the first, each on lines of its own. -/
def prettyFields (level : Nat) : List (String × Json) → List String
  | [] => []
  | (name, value) :: fields =>
    "," :: newline level :: quote name :: ": " :: prettyPieces level value ++ prettyFields level fields

end

/-- A value over several lines, with two blanks of indentation for each level. -/
def pretty (j : Json) : String := String.join (j.prettyPieces 0)

end Readback.Json
