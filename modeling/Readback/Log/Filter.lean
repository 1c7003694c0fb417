import Readback.Log.Basic
import Readback.Log.Pattern
import Readback.Text.Alphanumeric
import Readback.Text.Blank
import Readback.Text.Numeral

/-!
# Log filters

Which lines are shown. A filter is a list of directives, each a level for some lines: those of the sources whose names
start in a given way, and of them those with a given field. The most specific directive decides: the one with the
longest such beginning, then the one that names a field. A line without a directive is not shown.
-/

namespace Readback.Log

/-! ## Directives -/

/-- A field that a directive asks for, and the value that it asks for in it. -/
structure FieldPattern where
  name : String
  value : Option String
  deriving DecidableEq, Repr

/-- A level for some lines. -/
structure Directive where
  /-- How the source's name starts, if that matters. -/
  source : Option String
  /-- The span that the line has to lie in, if one is named. -/
  span : Option String := none
  fields : List FieldPattern := []
  threshold : Threshold
  deriving DecidableEq, Repr

namespace Directive

/-- Whether a directive is about a line. The program opens no spans and compares no values, so a directive that names a
span or a value is about none. -/
def covers (d : Directive) (l : Line) : Bool :=
  d.source.all (fun s => s.toList.isPrefixOf l.source.toList) && d.span.isNone &&
    d.fields.all fun f => f.value.isNone && l.has f.name

/-- How much of the source's name a directive fixes; to fix nothing comes below fixing the empty text. -/
def reach (d : Directive) : Nat := d.source.elim 0 (·.utf8ByteSize + 1)

/-- Whether a later directive decides in the place of an earlier one when both are about a line. -/
def yields (earlier later : Directive) : Bool :=
  let names (d : Directive) : List String := d.fields.map (·.name)
  let order := (compare earlier.reach later.reach).then
    ((compare earlier.fields.length later.fields.length).then (compare (names earlier) (names later)))
  order != .gt

end Directive

/-! ## Reading -/

/-- Reads a level: a name in letters of any case, or a number from nought to five. -/
def Threshold.read? (text : String) : Option Threshold :=
  match Numeral.uint64 text with
  | .ok 0 => some none
  | .ok 1 => some (some .error)
  | .ok 2 => some (some .warn)
  | .ok 3 => some (some .info)
  | .ok 4 => some (some .debug)
  | .ok 5 => some (some .trace)
  | _ => Threshold.ofName? text.toLower

namespace Directive

/-- Whether a source's name can start with a character. -/
def startsSource (c : Char) : Bool := Text.isAlphanumeric c || c = '-' || c = ':' || c = '_'

/-- Reads a field: a name, and a value behind an equals sign. -/
def field? (cs : List Char) : Option FieldPattern :=
  match cs.splitOnP (· = '=') with
  | [] | [[]] => none
  | [name] => some ⟨String.ofList name, none⟩
  | name :: value :: _ => do
    guard (isValuePattern (String.ofList value))
    return ⟨String.ofList name, some (String.ofList value)⟩

/-- Reads a span's name and a field in braces, either of which can be absent, up to the closing bracket. -/
def scope? (cs : List Char) : Option (Option String × List FieldPattern × List Char) :=
  let name := cs.takeWhile fun c => c ≠ ']' ∧ c ≠ '\x7b'
  match cs.drop name.length with
  | ']' :: rest => some (some (String.ofList name), [], rest)
  | '\x7b' :: rest =>
    let inner := rest.takeWhile (· ≠ '\x7d')
    match rest.drop inner.length with
    | '\x7d' :: ']' :: rest => do
      return (if name.isEmpty then none else some (String.ofList name), [← field? inner], rest)
    | _ => none
  | _ => none

/-- Reads the level behind an equals sign; without one, everything is shown. -/
def level? : List Char → Option Threshold
  | [] | ['='] => some (some .trace)
  | '=' :: level => Threshold.read? (String.ofList level)
  | _ => none

/-- Reads a directive: a level for all sources; or a source, with a span and a field in brackets and a level for it, all
of which but one can be absent. A blank at either end makes a level a source, and spoils a level for a source; behind a
blank no source starts. -/
def parse? (text : String) : Option Directive :=
  let cs := text.toList
  let trimmed := Text.trimChars cs
  let leading := cs.head?.any Text.isBlank
  let levelled (rest : List Char) : Option Threshold := if rest ≠ [] ∧ cs ≠ trimmed then none else level? rest
  let bracketed (source : Option String) (rest : List Char) : Option Directive := do
    let (span, fields, rest) ← scope? rest
    return ⟨if leading then some text else source, span, fields, ← levelled rest⟩
  match trimmed with
  | [] => none
  | '[' :: rest => bracketed none rest
  | c :: _ =>
    let name := trimmed.takeWhile fun c => c ≠ '=' ∧ c ≠ '['
    if !startsSource c then none
    else
      match trimmed.drop name.length with
      | '[' :: rest => bracketed (some (String.ofList name)) rest
      | [] =>
        match Threshold.read? text with
        | some t => some { source := none, threshold := t }
        | none => some { source := some text, threshold := some .trace }
      | rest => do return { source := some (String.ofList name), threshold := ← levelled rest }

end Directive

/-! ## Filters -/

/-- Directives in the order in which they are given. -/
abbrev Filter := List Directive

namespace Filter

/-- Reads directives between commas; without any, only errors are shown. One that cannot be read spoils them all. -/
def parse? (text : String) : Option Filter := do
  match ← ((text.splitOn ",").filter (!·.isEmpty)).mapM Directive.parse? with
  | [] => return [{ source := none, threshold := some .error }]
  | directives => return directives

/-- The more decisive of two directives that cover a line. -/
def prefer (earlier : Option Directive) (later : Directive) : Option Directive :=
  match earlier with
  | none => some later
  | some d => some (if d.yields later then later else d)

/-- The level for a line. -/
def threshold (f : Filter) (l : Line) : Threshold :=
  (((f.filter (·.covers l)).foldl prefer none).map Directive.threshold).getD none

/-- Whether a line is shown. -/
def shows (f : Filter) (l : Line) : Bool := (f.threshold l).shows l.level

/-- The filter in the absence of another. -/
def usual (verbose : Bool) : Filter :=
  let level := if verbose then Level.debug else .info
  [{ source := some "echoprobe", threshold := some level }, { source := some "tower_http", threshold := some level }]

/-- The filter that the surroundings ask for, if they do and it can be read. -/
def choose (wish : Option String) (verbose : Bool) : Filter := (wish.bind parse?).getD (usual verbose)

end Filter

end Readback.Log
