import Readback.Text.CodePoints

/-!
# Plain text

A text without what a terminal would obey instead of showing: control characters other than blanks, and control
sequences from the escape character to their end.
-/

namespace Readback.Text

namespace Plain

/-- Where in a control sequence a text stands. -/
inductive Mode where
  /-- Outside of any. -/
  | ground
  /-- Behind the escape character. -/
  | escape
  /-- In a sequence of more than one character, which a letter or digit ends. -/
  | intermediate
  /-- In a sequence that started with a bracket, which a letter ends. -/
  | control
  /-- In a sequence that holds a text of its own. -/
  | string
  /-- In a sequence that holds a title, which a bell ends. -/
  | title
  deriving DecidableEq, Repr

/-- The mode that a character sets, if it sets one. -/
def Mode.next? (m : Mode) (c : Char) : Option Mode :=
  if c.toNat = 0x1B then some .escape
  else if c.toNat = 0x18 ∨ c.toNat = 0x1A then some .ground
  else
    match m with
    | .ground => if 0x80 ≤ c.toNat then some .ground else none
    | .escape =>
      if between 0x20 0x2F c then some .intermediate
      else if c = '[' then some .control
      else if c = ']' then some .title
      else if c ∈ ['P', 'X', '^', '_'] then some .string
      else if between 0x30 0x7E c then some .ground
      else none
    | .intermediate => if between 0x30 0x7E c then some .ground else none
    | .control => if between 0x40 0x7E c then some .ground else none
    | .string => if (String.utf8EncodeChar c).contains 0x9C then some .ground else none
    | .title => if c.toNat = 0x07 then some .ground else none

/-- A blank that moves on within a text. -/
def isBreak (c : Char) : Bool := c.toNat ∈ [0x09, 0x0A, 0x0C, 0x0D]

/-- Whether a character is shown. Blanks are shown even within the shorter control sequences. -/
def Mode.shows (m : Mode) (c : Char) : Bool :=
  match m with
  | .ground => (0x20 ≤ c.toNat && c.toNat ≠ 0x7F) || isBreak c
  | .escape | .intermediate | .control => isBreak c
  | .string | .title => false

/-- The characters that are shown. While `showing`, a control sequence that a blank interrupted is put aside; it goes on
where something is not shown. -/
def shown (showing : Bool) (m : Mode) : List Char → List Char
  | [] => []
  | c :: cs =>
    let current : Mode := if showing then .ground else m
    let next := (current.next? c).getD m
    if current.shows c then c :: shown true ((Mode.ground.next? c).getD next) cs
    else shown false (if showing then (next.next? c).getD next else next) cs

end Plain

/-- What is shown of a text. -/
def plain (text : String) : String := String.ofList (Plain.shown false .ground text.toList)

end Readback.Text
