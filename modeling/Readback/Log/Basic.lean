import Readback.Text.Quoted

/-!
# Log lines

A line has a level, the name of the part of the program that speaks, a message, and named values. Of the levels, the
more severe comes first.
-/

namespace Readback.Log

/-- How severe a line is. -/
inductive Level where
  | error
  | warn
  | info
  | debug
  | trace
  deriving DecidableEq, Repr

namespace Level

/-- The rank of a level: the more severe, the lower. -/
def rank : Level → Nat
  | .error => 1
  | .warn => 2
  | .info => 3
  | .debug => 4
  | .trace => 5

/-- The level, right-aligned in five columns. -/
def tag : Level → String
  | .error => "ERROR"
  | .warn => " WARN"
  | .info => " INFO"
  | .debug => "DEBUG"
  | .trace => "TRACE"

end Level

/-- The least severe level that is shown; nothing is shown if there is none. -/
abbrev Threshold := Option Level

/-- Whether lines of a level are shown. -/
def Threshold.shows (t : Threshold) (level : Level) : Bool :=
  match t with
  | none => false
  | some least => level.rank ≤ least.rank

/-- Reads the name of a level in small letters, or `off`. -/
def Threshold.ofName? : String → Option Threshold
  | "off" => some none
  | "error" => some (some .error)
  | "warn" => some (some .warn)
  | "info" => some (some .info)
  | "debug" => some (some .debug)
  | "trace" => some (some .trace)
  | _ => none

/-- One log line. -/
structure Line where
  level : Level
  source : String
  message : String
  /-- The named values, in the order in which they are written. -/
  fields : List (String × String) := []
  deriving DecidableEq, Repr

namespace Line

/-- Whether a line has a field; the message is one. -/
def has (l : Line) (name : String) : Bool := name = "message" || (l.fields.lookup name).isSome

/-- A character of a message; one that a terminal might obey is written by its code. -/
def messageChar (c : Char) : String :=
  if c.toNat ∈ [0x07, 0x08, 0x0C, 0x1B, 0x7F] then
    "\\x" ++ String.ofList ((if c.toNat < 0x10 then ['0'] else []) ++ Nat.toDigits 16 c.toNat)
  else if 0x80 ≤ c.toNat ∧ c.toNat ≤ 0x9F then Text.codePoint c.toNat
  else c.toString

/-- The line as it is written. -/
def text (l : Line) : String :=
  l.level.tag ++ " " ++ l.source ++ ": " ++ String.join (l.message.toList.map messageChar) ++
    String.join (l.fields.map fun (name, value) => " " ++ name ++ "=" ++ value)

end Line

end Readback.Log
