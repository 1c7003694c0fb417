import Readback.Http.DomainName.Table
import Readback.Http.Punycode
import Readback.Text.Composition
import Readback.Text.Hidden
import Readback.Text.Width

/-!
# Host names

A name is a sequence of labels between dots. Capital letters, and the many forms that a letter or digit can have, stand
for one; a label beyond ASCII is written in ASCII behind a mark. Names that could be taken for others are refused: those
with labels that start with a mark, hold a joiner out of place, or change their direction.
-/

namespace Readback.Http.DomainName

/-! ## Characters -/

/-- The joiner that attaches a letter to the next, and the one that keeps it from that. -/
def isJoiner (c : Char) : Bool := c.toNat == 0x200C || c.toNat == 0x200D

/-- The characters that a character stands for, if it may stand in a name. -/
def mapChar (c : Char) : Option (List Char) :=
  if c.toNat < 0x80 then some [c.toLower]
  else if ignored.contains c then some []
  else
    match runs.findSome? (·.target? c.toNat) with
    | some target => some (target.map Char.ofNat)
    | none => if !isJoiner c && (Text.invisible.contains c || barred.contains c) then none else some [c]

/-- The characters that a text stands for, in composed form. -/
def mapped? (cs : List Char) : Option (List Char) := (cs.mapM mapChar).map fun targets => Text.composed targets.flatten

/-! ## Joiners -/

/-- A sign that mutes the vowel of the consonant before it. -/
def isVirama (c : Char) : Bool := Text.Composition.markClass c.toNat == 9

/-- A character that letters join across. -/
def isTransparent (c : Char) : Bool := Text.charWidth c == 0 && !Text.unjoined.contains c

/-- Whether the joiners among characters stand in place: behind a virama, or, for the one that keeps letters apart,
between two letters that would join. -/
def joinersOk : List Char → List Char → Bool
  | _, [] => true
  | before, c :: behind =>
    let parts := c.toNat == 0x200C &&
      (before.dropWhile isTransparent).head?.any joinsNext.contains &&
      (behind.dropWhile isTransparent).head?.any joinsPrevious.contains
    (!isJoiner c || before.head?.any isVirama || parts) && joinersOk (c :: before) behind

/-! ## Direction -/

/-- How a character takes part in the direction of a text. -/
inductive Direction where
  | left
  | right
  | arabicNumber
  | europeanNumber
  /-- A mark, which follows the character before it. -/
  | mark
  | neutral
  deriving DecidableEq, Repr

/-- The direction of a character. -/
def Direction.of (c : Char) : Direction :=
  if rightToLeft.contains c then .right
  else if arabicNumbers.contains c then .arabicNumber
  else if europeanNumbers.contains c then .europeanNumber
  else if undirected.contains c then .neutral
  else if marks.contains c && Text.charWidth c == 0 then .mark
  else .left

/-- Whether a label has a part that is written from right to left. -/
def hasRight (cs : List Char) : Bool :=
  cs.any fun c => Direction.of c = .right || Direction.of c = .arabicNumber

/-- Whether a label keeps its direction in whatever context it stands. -/
def directionOk (cs : List Char) : Bool :=
  let directions := cs.map Direction.of
  let last := (directions.reverse.dropWhile (· = .mark)).head?
  match directions.head? with
  | none => true
  | some .left => !directions.contains .right && !directions.contains .arabicNumber &&
      (last = some .left || last = some .europeanNumber)
  | some .right => !directions.contains .left &&
      (last = some .right || last = some .europeanNumber || last = some .arabicNumber) &&
      !(directions.contains .europeanNumber && directions.contains .arabicNumber)
  | some _ => false

/-! ## Labels -/

/-- The mark of a label that is written in ASCII for another. -/
def asciiMark : List Char := "xn--".toList

/-- Whether characters can form a label. -/
def labelOk (cs : List Char) : Bool := !cs.head?.any marks.contains && joinersOk [] cs

/-- A label: what it stands for, and how it is written. -/
structure Label where
  shown : List Char
  written : List Char

/-- Reads a label. One written in ASCII for another has to stand for a label that could not be written as it is. -/
def Label.read? (cs : List Char) : Option Label :=
  if asciiMark.isPrefixOf cs then do
    let shown ← Punycode.decode? (cs.drop asciiMark.length)
    guard (shown.any (0x80 ≤ ·.toNat) ∧ mapped? shown = some shown ∧ labelOk shown)
    return ⟨shown, cs⟩
  else if cs.all (·.toNat < 0x80) then some ⟨cs, cs⟩
  else if labelOk cs then some ⟨cs, asciiMark ++ Punycode.encode cs⟩
  else none

/-- The labels of a name. -/
def labels? (cs : List Char) : Option (List Label) := do
  let labels ← ((← mapped? cs).splitOnP (· = '.')).mapM Label.read?
  guard (labels.any (hasRight ·.shown) → labels.all (directionOk ·.shown))
  return labels

/-- Whether an ASCII character may not stand in a name. -/
def isForbidden (c : Char) : Bool :=
  c.toNat ≤ 0x20 || c.toNat == 0x7F || "#%/:<>?@[\\]^|".toList.contains c

/-- A name in ASCII. -/
def toAscii? (cs : List Char) : Option (List Char) := do
  let labels ← labels? cs
  let written := ['.'].intercalate (labels.map Label.written)
  guard (!written.any isForbidden)
  return written

end Readback.Http.DomainName
