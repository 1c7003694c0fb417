/-!
# Media types

A media type is a type and a subtype, joined by a slash, and parameters behind semicolons. What follows the last plus
sign of a subtype is its suffix. Case does not matter.
-/

namespace Readback.Http

/-- A character of a token. -/
def isToken (c : Char) : Bool := c.isAlphanum || "!#$%&'*+-.^_`|~".toList.contains c

/-- A character between the quotes of a parameter. -/
def isQuotable (c : Char) : Bool := 31 < c.toNat && c.toNat < 127

/-- What part of the parameters is being read. -/
inductive ParameterPart where
  /-- Before a name. -/
  | gap
  /-- Within a name. -/
  | name
  /-- Behind the equals sign. -/
  | valueStart
  /-- Within a bare value. -/
  | value
  /-- Behind an opening quote. -/
  | quotedStart
  /-- Within a quoted value. -/
  | quoted
  /-- Behind a closing quote. -/
  | afterQuote
  deriving DecidableEq, Repr

/-- Whether parameters are well formed from the given part on. -/
def parametersOk : ParameterPart → List Char → Bool
  | .gap, [] | .valueStart, [] | .value, [] | .afterQuote, [] => true
  | .name, [] | .quotedStart, [] | .quoted, [] => false
  | .gap, c :: cs => if c = ' ' then parametersOk .gap cs else isToken c && parametersOk .name cs
  | .name, c :: cs => if c = '=' then parametersOk .valueStart cs else isToken c && parametersOk .name cs
  | .valueStart, c :: cs => if c = '"' then parametersOk .quotedStart cs else isToken c && parametersOk .value cs
  | .value, c :: cs => if c = ';' then parametersOk .gap cs else isToken c && parametersOk .value cs
  | .quotedStart, c :: cs => isQuotable c && parametersOk .quoted cs
  | .quoted, c :: cs => if c = '"' then parametersOk .afterQuote cs else isQuotable c && parametersOk .quoted cs
  | .afterQuote, c :: cs =>
    if c = ' ' then parametersOk .afterQuote cs else c = ';' && parametersOk .gap cs

/-- A media type without its parameters, in small letters. -/
structure MediaType where
  kind : String
  subtype : String
  suffix : Option String
  deriving DecidableEq, Repr

namespace MediaType

/-- Small letters for capital ones. -/
def lower (cs : List Char) : String := String.ofList (cs.map Char.toLower)

/-- Splits a subtype at its last plus sign, unless nothing stands before that. -/
def splitSuffix (cs : List Char) : List Char × Option (List Char) :=
  let suffix := (cs.reverse.takeWhile (· ≠ '+')).reverse
  let base := cs.take (cs.length - suffix.length - 1)
  if suffix.length = cs.length ∨ base.isEmpty then (cs, none) else (base, some suffix)

/-- Reads a media type. -/
def parse? (text : String) : Option MediaType :=
  let kind := text.toList.takeWhile isToken
  match text.toList.dropWhile isToken with
  | '/' :: rest =>
    let name := rest.takeWhile isToken
    let (base, suffix) := splitSuffix name
    let ok :=
      match rest.dropWhile isToken with
      | [] => true
      | ';' :: parameters => !name.isEmpty && parametersOk .gap parameters
      | _ => false
    if !kind.isEmpty && ok then some ⟨lower kind, lower base, suffix.map lower⟩ else none
  | _ => none

/-- Whether messages of this type are JSON. -/
def isJson (m : MediaType) : Bool := m.kind = "application" && (m.subtype = "json" || m.suffix = some "json")

end MediaType

end Readback.Http
