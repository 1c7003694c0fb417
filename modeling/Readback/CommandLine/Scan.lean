import Readback.CommandLine.Switch

/-!
# Scanning arguments

Arguments are read from left to right. A value can stand behind its option or be attached to it, with an equals sign or,
for a short name, without. A value behind its option is looked at only when the next known option follows or the
arguments end; an unknown option or a stray argument before that is complained about first.
-/

namespace Readback.CommandLine

/-- The options given so far, with the text of their values, and the option that a value may follow or has followed. -/
structure Scan where
  given : List (String × String) := []
  pending : Option (Switch × Option String) := none

namespace Scan

/-- Adds an option with its value. -/
def add (s : Scan) (switch : Switch) (value : String) : Except Halt Scan :=
  if s.given.any (·.1 = switch.long) then complain (.repeated switch)
  else if switch = helpSwitch then .error .help
  else if switch = versionSwitch then .error .version
  else
    match switch.value.bind fun (_, kind) => kind.problem? value with
    | some why => complain (.invalidValue value switch why)
    | none => .ok { s with given := s.given ++ [(switch.long, value)] }

/-- Deals with the option that is pending. -/
def settle (s : Scan) : Except Halt Scan :=
  match s.pending with
  | none => .ok s
  | some (switch, none) => complain (.valueRequired switch)
  | some (switch, some value) => { s with pending := none }.add switch value

/-- Adds an option once the pending one is dealt with. -/
def addNext (s : Scan) (switch : Switch) (value : String) : Except Halt Scan := do (← s.settle).add switch value

/-- Waits for the value of an option once the pending one is dealt with. -/
def await (s : Scan) (switch : Switch) : Except Halt Scan := do
  return { ← s.settle with pending := some (switch, none) }

/-- Reads a long option, with the value attached to it. -/
def long (switches : List Switch) (s : Scan) (name : List Char) (value : Option (List Char)) : Except Halt Scan :=
  match switches.find? (·.long.toList = name), value with
  | none, _ => complain (.unexpectedArgument ("--" ++ String.ofList name))
  | some switch, some value =>
    if switch.value.isSome then s.addNext switch (String.ofList value)
    else complain (.unexpectedValue (String.ofList value) switch)
  | some switch, none => if switch.value.isSome then s.await switch else s.addNext switch ""

/-- Reads short options that stand together; the first that takes a value takes what is left. -/
def short (switches : List Switch) : Scan → List Char → Except Halt Scan
  | s, [] => .ok s
  | s, c :: cs =>
    match switches.find? (·.short = some c) with
    | none => complain (.unexpectedArgument ("-" ++ c.toString))
    | some switch =>
      if switch.value.isNone then do short switches (← s.addNext switch "") cs
      else
        match cs with
        | [] => s.await switch
        | '=' :: value => s.addNext switch (String.ofList value)
        | value => s.addNext switch (String.ofList value)

/-- The option that waits for its value. -/
def awaiting? (s : Scan) : Option Switch :=
  match s.pending with
  | some (switch, none) => some switch
  | _ => none

end Scan

/-- Whether digits, behind a minus sign, look like a number: one point and one exponent may stand among them. -/
def looksNumeric (cs : List Char) : Bool :=
  let isExponent (c : Char) : Bool := c = 'e' || c = 'E'
  let mantissa := cs.takeWhile (!isExponent ·)
  let whole := mantissa.takeWhile (· ≠ '.')
  let decimals := (mantissa.dropWhile (· ≠ '.')).drop 1
  let exponentOk :=
    match cs.dropWhile (!isExponent ·) with
    | [] => true
    | _ :: digits => !mantissa.isEmpty && !digits.isEmpty && digits.all Char.isDigit
  let mantissaOk := whole.all Char.isDigit && decimals.all Char.isDigit && (mantissa.isEmpty || !whole.isEmpty)
  mantissaOk && exponentOk

/-- An argument that is neither an option nor the value of one, and what follows it. -/
structure Stray where
  argument : String
  rest : List String
  /-- Whether it stands behind `--`. -/
  escaped : Bool

/-- Reads options up to the first stray argument. -/
def scan (switches : List Switch) : Scan → List String → Except Halt (Scan × Option Stray)
  | s, [] => .ok (s, none)
  | s, argument :: rest =>
    let value : Unit → Option (Except Halt (Scan × Option Stray)) := fun _ =>
      s.awaiting?.map fun switch => scan switches { s with pending := some (switch, some argument) } rest
    match argument.toList with
    | ['-', '-'] =>
      match rest with
      | [] => .ok (s, none)
      | argument :: rest => .ok (s, some ⟨argument, rest, true⟩)
    | '-' :: '-' :: cs => do
      let value := (cs.dropWhile (· ≠ '=')).tail?
      scan switches (← s.long switches (cs.takeWhile (· ≠ '=')) value) rest
    | '-' :: c :: cs =>
      if s.awaiting?.any (·.negative) && looksNumeric (c :: cs) then
        (value ()).getD (.ok (s, some ⟨argument, rest, false⟩))
      else do scan switches (← s.short switches (c :: cs)) rest
    | _ => (value ()).getD (.ok (s, some ⟨argument, rest, false⟩))

end Readback.CommandLine
