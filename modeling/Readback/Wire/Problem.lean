import Readback.Text.Numeral
import Readback.Text.Quoted
import Readback.Text.Shortest

/-!
# Problems with a message body

A body can be flawed as JSON, or be sound as far as it was read and not fit the expected shape. A reader that meets a
problem says how much of the body was still to come; the place is computed from that.
-/

namespace Readback.Wire

/-- What keeps a text from being JSON. -/
inductive Flaw where
  | endInList
  | endInObject
  | endInString
  | endInValue
  | expectedColon
  | expectedListEnd
  | expectedObjectEnd
  | expectedIdent
  | expectedValue
  | invalidEscape
  | invalidNumber
  | numberOutOfRange
  | invalidCodePoint
  | controlCharacter
  | keyNotString
  | loneSurrogate
  | trailingComma
  | trailingCharacters
  | endOfHexEscape
  deriving DecidableEq, Repr

/-- A flaw in words. -/
def Flaw.message : Flaw → String
  | .endInList => "EOF while parsing a list"
  | .endInObject => "EOF while parsing an object"
  | .endInString => "EOF while parsing a string"
  | .endInValue => "EOF while parsing a value"
  | .expectedColon => "expected `:`"
  | .expectedListEnd => "expected `,` or `]`"
  | .expectedObjectEnd => "expected `,` or `\x7d`"
  | .expectedIdent => "expected ident"
  | .expectedValue => "expected value"
  | .invalidEscape => "invalid escape"
  | .invalidNumber => "invalid number"
  | .numberOutOfRange => "number out of range"
  | .invalidCodePoint => "invalid unicode code point"
  | .controlCharacter => "control character (\\u0000-\\u001F) found while parsing a string"
  | .keyNotString => "key must be a string"
  | .loneSurrogate => "lone leading surrogate in hex escape"
  | .trailingComma => "trailing comma"
  | .trailingCharacters => "trailing characters"
  | .endOfHexEscape => "unexpected end of hex escape"

/-- A value found in the place of another. -/
inductive Found where
  | null
  | bool (b : Bool)
  | int (n : Int)
  | float (f : Float)
  | string (cs : List Char)
  | list
  | object

/-- A found value in words. -/
def Found.text : Found → String
  | .null => "null"
  | .bool b => "boolean `" ++ (if b then "true" else "false") ++ "`"
  | .int n => "integer `" ++ Numeral.intText n ++ "`"
  | .float f => "floating point `" ++ Shortest.text f ++ "`"
  | .string cs => "string " ++ Text.quoted cs
  | .list => "sequence"
  | .object => "map"

/-- What keeps a JSON text from being a body. -/
inductive Misfit where
  /-- Another kind of value was expected. -/
  | wrongKind (found : Found) (expected : String)
  /-- The integer does not fit 64 bits. -/
  | outOfRange (n : Int)
  /-- The list is empty. -/
  | emptyList (expected : String)
  /-- The object has no field of that name. -/
  | missingField (name : String)
  /-- The object has two fields of that name. -/
  | repeatedField (name : String)

/-- What a number is called in messages. -/
def numberName : String := "i64"

/-- A misfit in words. -/
def Misfit.message : Misfit → String
  | .wrongKind found expected => "invalid type: " ++ found.text ++ ", expected " ++ expected
  | .outOfRange n => "invalid value: " ++ (Found.int n).text ++ ", expected " ++ numberName
  | .emptyList expected => "invalid length 0, expected " ++ expected ++ " with 1 element"
  | .missingField name => "missing field `" ++ name ++ "`"
  | .repeatedField name => "duplicate field `" ++ name ++ "`"

/-- What a reader can meet. -/
inductive Problem where
  | flaw (f : Flaw)
  | misfit (m : Misfit)

/-- A problem in words. -/
def Problem.message : Problem → String
  | .flaw f => f.message
  | .misfit m => m.message

/-- A problem, and what was still to come where it was met. -/
structure Stumble where
  problem : Problem
  rest : List UInt8

/-- Reads a value from the front of a body and leaves the rest. -/
abbrev Reader (α : Type) := List UInt8 → Except Stumble (α × List UInt8)

/-- Stops before what is left. -/
def flawAt {α : Type} (f : Flaw) (rest : List UInt8) : Except Stumble α := .error ⟨.flaw f, rest⟩

/-- Stops behind the next byte, which is at fault. -/
def flawOn {α : Type} (f : Flaw) (rest : List UInt8) : Except Stumble α := flawAt f (rest.drop 1)

/-- Stops before what is left, for a misfit. -/
def misfitAt {α : Type} (m : Misfit) (rest : List UInt8) : Except Stumble α := .error ⟨.misfit m, rest⟩

/-- The line and the column, counted from one and from zero, behind the given bytes. -/
def placeAfter (read : List UInt8) : Nat × Nat :=
  (1 + read.count 10, (read.reverse.takeWhile (· ≠ 10)).length)

/-- A problem with a body and its place. -/
def Stumble.message (s : Stumble) (body : List UInt8) : String :=
  let (line, column) := placeAfter (body.take (body.length - s.rest.length))
  s.problem.message ++ " at line " ++ Numeral.natText line ++ " column " ++ Numeral.natText column

end Readback.Wire
