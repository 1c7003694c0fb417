import Readback.Text.Numeral
import Readback.Text.Plain

/-!
# Switches

The options of a command: their names, whether they take a value and of what kind, and what there is to complain about.
-/

namespace Readback.CommandLine

/-- What a value has to be. -/
inductive Kind where
  | text
  | uint64
  | int64
  | port
  deriving DecidableEq, Repr

/-- What is wrong with a value. -/
def Kind.problem? (kind : Kind) (value : String) : Option String :=
  match kind with
  | .text => none
  | .uint64 =>
    match Numeral.uint64 value with
    | .ok _ => none
    | .error e => some e.message
  | .int64 =>
    match Numeral.int64 value with
    | .ok _ => none
    | .error e => some e.message
  | .port =>
    match Numeral.int64 value with
    | .ok n =>
      if 0 ≤ n.toInt ∧ n.toInt ≤ 65535 then none
      else some (Numeral.intText n.toInt ++ " is not in 0..=65535")
    | .error e => some e.message

/-- An option of a command. -/
structure Switch where
  long : String
  short : Option Char := none
  /-- The name and the kind of its value, if it takes one. -/
  value : Option (String × Kind) := none
  /-- Whether the value can be a number with a minus sign. -/
  negative : Bool := false
  deriving DecidableEq, Repr

/-- The option in messages. -/
def Switch.display (s : Switch) : String :=
  "--" ++ s.long ++
    match s.value with
    | some (name, _) => " <" ++ name ++ ">"
    | none => ""

/-- Why arguments are refused. -/
inductive Complaint where
  | unexpectedArgument (argument : String)
  | invalidValue (value : String) (switch : Switch) (why : String)
  | valueRequired (switch : Switch)
  | repeated (switch : Switch)
  | unexpectedValue (value : String) (switch : Switch)
  | unrecognizedSubcommand (name : String)
  | missingSubcommand (program : String)
  deriving DecidableEq, Repr

/-- A complaint in words. What it takes from the arguments is shown as plain text. -/
def Complaint.message : Complaint → String
  | .unexpectedArgument a => "unexpected argument '" ++ Text.plain a ++ "' found"
  | .invalidValue v s why => "invalid value '" ++ Text.plain v ++ "' for '" ++ s.display ++ "': " ++ why
  | .valueRequired s => "a value is required for '" ++ s.display ++ "' but none was supplied"
  | .repeated s => "the argument '" ++ s.display ++ "' cannot be used multiple times"
  | .unexpectedValue v s =>
    "unexpected value '" ++ Text.plain v ++ "' for '" ++ s.display ++ "' found; no more were expected"
  | .unrecognizedSubcommand name => "unrecognized subcommand '" ++ Text.plain name ++ "'"
  | .missingSubcommand program => "'" ++ program ++ "' requires a subcommand but one was not provided"

/-- Why no command results from the arguments. -/
inductive Halt where
  | complaint (c : Complaint)
  /-- Help is asked for. -/
  | help
  /-- The version is asked for. -/
  | version
  /-- There are no arguments at all. -/
  | bare
  deriving DecidableEq, Repr

/-- Refuses the arguments. -/
def complain {α : Type} (c : Complaint) : Except Halt α := .error (.complaint c)

/-- The switch that asks for help. -/
def helpSwitch : Switch where
  long := "help"
  short := some 'h'

/-- The switch that asks for the version. -/
def versionSwitch : Switch where
  long := "version"
  short := some 'V'

end Readback.CommandLine
