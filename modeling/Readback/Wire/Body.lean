import Readback.Json.Printer
import Readback.Value
import Readback.Wire.Number
import Readback.Wire.Text

/-!
# Message bodies

The value that travels between a run and a server: an object with one field. Each end of the wire has a form of its own
for it. A body is read from left to right, and the first problem decides. Other fields are skipped, whatever they hold,
but have to be JSON; a list of one integer is read as well. `body` leaves what follows the value, `wholeBody` allows
only blanks there.
-/

namespace Readback.Wire

/-- The form of a body: what it is called in messages, and the name of its field. -/
structure Form where
  name : String
  field : String
  deriving DecidableEq, Repr

/-- The body that carries a value. -/
def Form.encode (f : Form) (v : Int64) : List UInt8 := Text.ascii (Json.compact (.obj [(f.field, Value.json v)]))

/-! ## Tokens -/

/-- The blanks between tokens. -/
def isBlank (b : UInt8) : Bool := b = 32 || b = 9 || b = 10 || b = 13

/-- What follows the blanks at the front. -/
def skipBlanks (s : List UInt8) : List UInt8 := s.dropWhile isBlank

/-- The comma. -/
def comma : UInt8 := 44

/-- The colon. -/
def colon : UInt8 := 58

/-- What a value stands in. -/
inductive Bracket where
  | list
  | object
  deriving DecidableEq, Repr

namespace Bracket

/-- The opening bracket. -/
def opening : Bracket → UInt8
  | .list => 91
  | .object => 123

/-- The closing bracket. -/
def closing : Bracket → UInt8
  | .list => 93
  | .object => 125

/-- The text ends before the closing bracket. -/
def ends : Bracket → Flaw
  | .list => .endInList
  | .object => .endInObject

/-- Neither a comma nor the closing bracket follows. -/
def expected : Bracket → Flaw
  | .list => .expectedListEnd
  | .object => .expectedObjectEnd

end Bracket

/-- Reads the remaining letters of a word. -/
def word : List UInt8 → List UInt8 → Except Stumble (List UInt8)
  | [], s => .ok s
  | _ :: _, [] => flawAt .endInValue []
  | letter :: letters, b :: rest => if b = letter then word letters rest else flawAt .expectedIdent rest

/-- Reads the colon behind a key. -/
def skipColon (s : List UInt8) : Except Stumble (List UInt8) :=
  match skipBlanks s with
  | [] => flawAt .endInObject []
  | b :: rest => if b = colon then .ok rest else flawOn .expectedColon (b :: rest)

/-! ## Integers -/

/-- Refuses the value at the front, which is not of the expected kind. -/
def refuse {α : Type} (expected : String) (s : List UInt8) : Except Stumble α :=
  let wrong (found : Found) (rest : List UInt8) : Except Stumble α := misfitAt (.wrongKind found expected) rest
  match s with
  | [] => flawAt .endInValue []
  | b :: rest =>
    if b = 110 then do wrong .null (← word (Text.ascii "ull") rest)
    else if b = 116 then do wrong (.bool true) (← word (Text.ascii "rue") rest)
    else if b = 102 then do wrong (.bool false) (← word (Text.ascii "alse") rest)
    else if b = 45 then do
      let (n, rest) ← unsignedNumber true rest
      wrong n.found rest
    else if isDigit b then do
      let (n, rest) ← unsignedNumber false (b :: rest)
      wrong n.found rest
    else if b = quoteByte then do
      let (cs, rest) ← string rest
      wrong (.string cs) rest
    else if b = Bracket.list.opening then wrong .list (b :: rest)
    else if b = Bracket.object.opening then wrong .object (b :: rest)
    else flawOn .expectedValue (b :: rest)

/-- The 64-bit integer that a number is. -/
def Number.int64 (n : Number) : Reader Int64 := fun rest =>
  match n with
  | .int i =>
    if Int64.minValue.toInt ≤ i ∧ i ≤ Int64.maxValue.toInt then .ok (Int64.ofInt i, rest)
    else misfitAt (.outOfRange i) rest
  | .float f => misfitAt (.wrongKind (.float f) numberName) rest

/-- Reads a 64-bit integer. -/
def int64 : Reader Int64 := fun s =>
  match skipBlanks s with
  | [] => flawAt .endInValue []
  | b :: rest =>
    if b = 45 then do
      let (n, rest) ← unsignedNumber true rest
      n.int64 rest
    else if isDigit b then do
      let (n, rest) ← unsignedNumber false (b :: rest)
      n.int64 rest
    else refuse numberName (b :: rest)

/-! ## Skipped values -/

/-- Skips a word, a number or a string that starts with the given byte. -/
def skipScalar (b : UInt8) (rest : List UInt8) : Except Stumble (List UInt8) :=
  if b = 110 then word (Text.ascii "ull") rest
  else if b = 116 then word (Text.ascii "rue") rest
  else if b = 102 then word (Text.ascii "alse") rest
  else if b = 45 then skipNumber rest
  else if isDigit b then skipNumber (b :: rest)
  else if b = quoteByte then skipString .plain rest
  else flawOn .expectedValue (b :: rest)

/-- Skips a key and its colon. -/
def skipKey (s : List UInt8) : Except Stumble (List UInt8) :=
  match skipBlanks s with
  | [] => flawAt .endInObject []
  | b :: rest =>
    if b = quoteByte then do skipColon (← skipString .plain rest) else flawOn .keyNotString (b :: rest)

/-- Skips what stands before a value in a bracket. -/
def skipToValue (bracket : Bracket) (s : List UInt8) : Except Stumble (List UInt8) :=
  match bracket with
  | .list => .ok s
  | .object => skipKey s

/-- Where a skip stands. -/
inductive Spot where
  /-- Before a value. -/
  | value
  /-- Behind an opening bracket. -/
  | opened
  /-- Behind a value. -/
  | after

/-- Skips the rest of a value that stands in the given brackets, in at most so many steps. -/
def skipSteps : Nat → Spot → List Bracket → List UInt8 → Except Stumble (List UInt8)
  | 0, _, _, s => flawAt .endInValue s
  | fuel + 1, .value, stack, s =>
    match skipBlanks s with
    | [] => flawAt .endInValue []
    | b :: rest =>
      if b = Bracket.list.opening then skipSteps fuel .opened (.list :: stack) rest
      else if b = Bracket.object.opening then skipSteps fuel .opened (.object :: stack) rest
      else do skipSteps fuel .after stack (← skipScalar b rest)
  | _ + 1, _, [], s => .ok s
  | fuel + 1, spot, bracket :: stack, s =>
    match skipBlanks s, spot with
    | [], _ => flawAt bracket.ends []
    | b :: rest, .after =>
      if b = comma then do skipSteps fuel .value (bracket :: stack) (← skipToValue bracket rest)
      else if b = bracket.closing then skipSteps fuel .after stack rest
      else flawOn bracket.expected (b :: rest)
    | b :: rest, _ =>
      if b = bracket.closing then skipSteps fuel .after stack rest
      else do skipSteps fuel .value (bracket :: stack) (← skipToValue bracket (b :: rest))

/-- Skips a value. Every byte of it takes at most two steps. -/
def skipValue (s : List UInt8) : Except Stumble (List UInt8) := skipSteps (2 * s.length + 2) .value [] s

/-! ## Bodies -/

/-- The next key of an object, from behind its opening quote, or none at its end. -/
def nextKey (first : Bool) (s : List UInt8) : Except Stumble (Option (List UInt8)) :=
  match skipBlanks s with
  | [] => flawAt .endInObject []
  | b :: rest =>
    if b = Bracket.object.closing then .ok none
    else if first then if b = quoteByte then .ok (some rest) else flawOn .keyNotString (b :: rest)
    else if b = comma then
      match skipBlanks rest with
      | [] => flawAt .endInValue []
      | b :: rest =>
        if b = quoteByte then .ok (some rest)
        else if b = Bracket.object.closing then flawOn .trailingComma (b :: rest)
        else flawOn .keyNotString (b :: rest)
    else flawOn .expectedObjectEnd (b :: rest)

/-- What is left when an object is given up: blanks and its end are passed. -/
def leaveObject (s : List UInt8) : List UInt8 :=
  match skipBlanks s with
  | b :: rest => if b = Bracket.object.closing then rest else b :: rest
  | [] => []

/-- Reads the fields of an object from the given one on, in at most so many steps. -/
def Form.fields (f : Form) : Nat → Bool → Option Int64 → Reader Int64
  | 0, _, _, s => flawAt .endInObject s
  | fuel + 1, first, found, s => do
    match ← nextKey first s with
    | none =>
      match found with
      | some v => .ok (v, leaveObject s)
      | none => misfitAt (.missingField f.field) (leaveObject s)
    | some keyed =>
      let (key, rest) ← string keyed
      if key = f.field.toList then
        match found with
        | some _ => misfitAt (.repeatedField f.field) (leaveObject rest)
        | none =>
          let (v, rest) ← int64 (← skipColon rest)
          f.fields fuel false (some v) rest
      else f.fields fuel false found (← skipValue (← skipColon rest))

/-- Reads the end of a list of one integer. -/
def endOfList (v : Int64) : Reader Int64 := fun s =>
  match skipBlanks s with
  | [] => flawAt .endInList []
  | b :: rest =>
    if b = Bracket.list.closing then .ok (v, rest)
    else if b = comma then
      let rest := skipBlanks rest
      flawOn (if rest.head? = some Bracket.list.closing then .trailingComma else .trailingCharacters) rest
    else flawOn .trailingCharacters (b :: rest)

/-- Reads a list of one integer behind its opening bracket. -/
def Form.singleton (f : Form) : Reader Int64 := fun s =>
  match skipBlanks s with
  | [] => flawAt .endInList []
  | b :: rest =>
    if b = Bracket.list.closing then misfitAt (.emptyList f.name) rest
    else do
      let (v, rest) ← int64 (b :: rest)
      endOfList v rest

/-- Reads a body and leaves what follows it. Every field takes at least one byte. -/
def Form.body (f : Form) : Reader Int64 := fun s =>
  match skipBlanks s with
  | [] => flawAt .endInValue []
  | b :: rest =>
    if b = Bracket.list.opening then f.singleton rest
    else if b = Bracket.object.opening then f.fields (rest.length + 1) true none rest
    else refuse f.name (b :: rest)

/-- Reads a body that nothing but blanks follows. -/
def Form.wholeBody (f : Form) (s : List UInt8) : Except Stumble Int64 := do
  let (v, rest) ← f.body s
  match skipBlanks rest with
  | [] => .ok v
  | rest => flawOn .trailingCharacters rest

end Readback.Wire
