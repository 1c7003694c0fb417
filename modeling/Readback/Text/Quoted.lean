import Readback.Text.Hidden

/-!
# Quoted text

A text between double quotes for a message: quotes and backslashes are escaped, and characters that would not show are
written by their code point.
-/

namespace Readback.Text

/-- A code point in braces, in hexadecimal. -/
def codePoint (n : Nat) : String := "\\u\x7b" ++ String.ofList (Nat.toDigits 16 n) ++ "\x7d"

/-- A character as it stands between the quotes. -/
def quoteChar (c : Char) : String :=
  if c = '"' then "\\\""
  else if c = '\\' then "\\\\"
  else if c = '\n' then "\\n"
  else if c = '\r' then "\\r"
  else if c = '\t' then "\\t"
  else if c.toNat = 0 then "\\0"
  else if isHidden c then codePoint c.toNat
  else c.toString

/-- A text between double quotes. -/
def quoted (cs : List Char) : String := "\"" ++ String.join (cs.map quoteChar) ++ "\""

end Readback.Text
