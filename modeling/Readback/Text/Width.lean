import Readback.Text.Width.Table

/-!
# Display width

How many terminal columns a text takes. A character on its own takes none, one, two or, in one case, three. Besides,
some runs of characters are shown as one: an emoji and what a joiner attaches to it, the letters of a flag, a character
and the selector of its form, the ligatures of some scripts, a line break of two characters. Whether a character is part
of such a run depends on what stands behind it, so the columns are added up from the end of the text.
-/

namespace Readback.Text

/-! ## Characters -/

/-- The columns of a character on its own. -/
def charWidth (c : Char) : Nat :=
  if c.toNat ≤ 0xA0 then 1
  else if zeroWidth.contains c then 0
  else if doubleWidth.contains c then 2
  else if c.toNat = 0x17D8 then 3
  else 1

/-- The joiner that attaches what stands behind it to what stands before it. -/
def isJoiner (c : Char) : Bool := c.toNat == 0x200D

/-- A letter of a flag. -/
def isRegional (c : Char) : Bool := between 0x1F1E6 0x1F1FF c

/-- A skin tone, shown as part of the emoji before it. -/
def isSkinTone (c : Char) : Bool := between 0x1F3FB 0x1F3FF c

/-- A character whose other form takes one column. -/
def narrowsAsText (c : Char) : Bool := twoForms.contains c && emojiPresentation.contains c && !between 0x1F200 0x1F2FF c

/-- A quotation mark, of which there is a form of two columns. -/
def isQuotationMark (c : Char) : Bool := [0x2018, 0x2019, 0x201C, 0x201D].contains c.toNat

/-- A letter alef that joins a lam before it. -/
def isAlef (c : Char) : Bool :=
  [0x622, 0x623, 0x625, 0x627, 0x675, 0x773, 0x774].contains c.toNat || between 0x671 0x673 c || between 0x870 0x882 c

/-- A letter lam. -/
def isLam (c : Char) : Bool := [0x644, 0x76A, 0x8A6, 0x8C7].contains c.toNat || between 0x6B5 0x6B8 c

/-- A Tifinagh consonant. -/
def isTifinaghConsonant (c : Char) : Bool := between 0x2D31 0x2D65 c || c.toNat == 0x2D6F

/-- A Khmer letter that has a form below the letter before it. -/
def isKhmerSubscript (c : Char) : Bool :=
  between 0x1780 0x1782 c || between 0x1784 0x1787 c || between 0x1789 0x178C c || between 0x178E 0x1793 c ||
    between 0x1795 0x1798 c || between 0x179B 0x179D c || between 0x17AB 0x17AC c ||
    [0x17A0, 0x17A2, 0x17A7, 0x17AF].contains c.toNat

/-- A character without a column that may stand within a ligature. -/
def isWithinLigature (c : Char) : Bool :=
  [0x34F, 0x17B4, 0x17B5, 0x180F, 0x200D].contains c.toNat || between 0x180B 0x180D c || between 0xFE00 0xFE0F c ||
    between 0xE0100 0xE01EF c

/-! ## What stands behind a character -/

/-- The run that stands right behind a character, as far as it bears on how the character is shown. -/
inductive Run where
  /-- Nothing that matters. -/
  | plain
  | lineFeed
  /-- An alef, with which a lam is one letter. -/
  | alef
  /-- A lamed, with which an alef is one letter if a joiner stands between them. -/
  | lamed (tied : Bool)
  /-- A ya, with which a vowel sign is one letter if a joiner stands between them. -/
  | ya (tied : Bool)
  /-- A vowel sign, a joiner and a ya. -/
  | iya
  /-- A consonant, with which another is one letter if a joiner stands between them. -/
  | tifinagh (tied : Bool)
  /-- The consonant joiner of the script, and a consonant. -/
  | tifinaghJoiner
  | lisuTone
  /-- An orkhon i, with which another letter is one if a joiner stands between them. -/
  | orkhon (tied : Bool)
  | khmerSubscript
  | kiratRaiE
  | kiratRaiAi
  /-- An emoji, which a joiner may attach to another. -/
  | emoji
  | skinTone
  /-- The last letter of a flag. -/
  | regional
  /-- Letters of flags. -/
  | regionals
  /-- A joiner and an emoji. -/
  | joined
  /-- A keycap sign that is joined to an emoji. -/
  | keycap
  /-- A letter of a flag that is joined to an emoji. -/
  | joinedRegional
  /-- An even number of letters of flags, joined to an emoji. -/
  | evenRegionals
  /-- An odd number, above one, of letters of flags, joined to an emoji. -/
  | oddRegionals
  /-- The end of the tags of a flag, with the letters read so far. -/
  | tagLetters (count : Nat)
  /-- The end of the tags of a flag, with the digits read so far. -/
  | tagDigits (count : Nat)
  deriving DecidableEq, Repr

/-- The form that a selector asks for. -/
inductive Form where
  | emoji
  | text
  | wide
  deriving DecidableEq, Repr

/-- The selector of a character's form, if one stands behind it, and the run behind that. -/
structure Following where
  run : Run := .plain
  form : Option Form := none
  deriving DecidableEq, Repr

namespace Run

/-- Whether the run is the second part of a ligature. -/
def isScript : Run → Bool
  | .alef | .lamed _ | .ya _ | .iya | .tifinagh _ | .tifinaghJoiner | .lisuTone | .orkhon _ | .khmerSubscript => true
  | _ => false

/-- The run behind a joiner within a ligature. -/
def join : Run → Run
  | .lamed _ => .lamed true
  | .ya _ => .ya true
  | .tifinagh _ => .tifinagh true
  | .orkhon _ => .orkhon true
  | r => r

/-- The run that a character starts on its own. -/
def of (c : Char) : Run :=
  if c.toNat ≤ 0xA0 then if c = '\n' then .lineFeed else .plain
  else if emojiPresentation.contains c then .emoji
  else if isSkinTone c then .skinTone
  else if isRegional c then .regional
  else if isAlef c then .alef
  else if c.toNat = 0x5DC then .lamed false
  else if c.toNat = 0x1A10 then .ya false
  else if isTifinaghConsonant c then .tifinagh false
  else if between 0xA4FC 0xA4FD c then .lisuTone
  else if c.toNat = 0x10C03 then .orkhon false
  else if isKhmerSubscript c then .khmerSubscript
  else if c.toNat = 0x16D67 then .kiratRaiE
  else if c.toNat = 0x16D68 then .kiratRaiAi
  else .plain

/-- What a character adds to the columns before a run of a script, and the run that it makes, if it is part of one. -/
def ligature? (r : Run) (c : Char) : Option (Int × Run) :=
  let n := c.toNat
  match r with
  | .alef =>
    if isLam c then some (0, .plain)
    else if charWidth c = 0 ∧ ¬unjoined.contains c then some (0, .alef)
    else none
  | .lamed tied => if tied ∧ n = 0x5D0 then some (0, .plain) else none
  | .khmerSubscript => if n = 0x17D2 then some (-1, .plain) else none
  | .ya tied => if tied ∧ n = 0x1A17 then some (0, .iya) else none
  | .iya => if n = 0x1A15 then some (0, .plain) else none
  | .tifinagh tied =>
    if n = 0x2D7F then some (1, .tifinaghJoiner)
    else if tied ∧ isTifinaghConsonant c then some (0, .plain)
    else none
  | .tifinaghJoiner => if isTifinaghConsonant c then some (-1, .plain) else none
  | .lisuTone => if between 0xA4F8 0xA4FB c then some (0, .plain) else none
  | .orkhon tied => if tied ∧ n = 0x10C32 then some (0, .plain) else none
  | .kiratRaiE =>
    if n = 0x16D63 ∨ n = 0x16D69 then some (0, .plain)
    else if n = 0x16D67 then some (0, .kiratRaiAi)
    else if n = 0x16D68 then some (1, .kiratRaiE)
    else none
  | .kiratRaiAi => if n = 0x16D63 then some (0, .plain) else none
  | _ => none

/-- What a character adds to the columns before a run of emoji, and the run that it makes, if it is part of one. -/
def emoji? (r : Run) (c : Char) : Option (Int × Run) :=
  let n := c.toNat
  match r with
  | .skinTone =>
    if toneable.contains c then some (0, .emoji)
    else if isJoiner c then some (0, .joined)
    else none
  | .emoji => if isJoiner c then some (0, .joined) else none
  | .regional => if isRegional c then some (1, .regionals) else none
  | .regionals =>
    if isRegional c then some (1, .regionals)
    else if isJoiner c then some (0, .joined)
    else none
  | .joinedRegional => if isRegional c then some (-1, .evenRegionals) else none
  | .evenRegionals =>
    if isRegional c then some (3, .oddRegionals)
    else if isJoiner c then some (0, .joined)
    else none
  | .oddRegionals =>
    if isRegional c then some (-1, .evenRegionals)
    else if isJoiner c then some (0, .joined)
    else none
  | .joined =>
    if n = 0x20E3 then some (0, .keycap)
    else if isRegional c then some (1, .joinedRegional)
    else if isSkinTone c then some (0, .skinTone)
    else if n = 0xE007F then some (0, .tagLetters 0)
    else if Run.of c = .emoji then some (0, .emoji)
    else none
  | .tagLetters count =>
    if between 0xE0061 0xE007A c ∧ count < 6 then some (0, .tagLetters (count + 1))
    else if between 0xE0030 0xE0039 c ∧ count < 5 then some (0, .tagDigits 1)
    else if n = 0x1F3F4 ∧ 3 ≤ count then some (0, .emoji)
    else none
  | .tagDigits count =>
    if between 0xE0030 0xE0039 c ∧ count < 3 then some (0, .tagDigits (count + 1))
    else if n = 0x1F3F4 ∧ count = 3 then some (0, .emoji)
    else none
  | _ => none

end Run

namespace Following

/-- What stands behind a selector that does not apply to the character before it. -/
def withoutForm (f : Following) : Run := if f.form.isNone ∨ f.run.isScript then f.run else .plain

/-- The selector that a character is. -/
def selector? (c : Char) : Option Form :=
  if c.toNat = 0xFE0F then some .emoji
  else if c.toNat = 0xFE0E then some .text
  else if c.toNat = 0xFE01 then some .wide
  else none

/-- What stands behind a character that has a selector behind it. -/
def select (r : Run) (form : Form) : Following :=
  let keeps := r.isScript || (form == .emoji && (r == .joined || r == .keycap))
  ⟨if keeps then r else .plain, some form⟩

/-- The columns that a character takes in the form that the selector behind it asks for, if it has that form, and the
run that it makes. -/
def formed? (f : Following) (c : Char) : Option (Int × Run) :=
  match f.form with
  | some .emoji =>
    if twoForms.contains c then some (if f.run = .joined ∨ f.run = .keycap then 0 else 2, .emoji) else none
  | some .text => if narrowsAsText c then some (1, .plain) else none
  | some .wide => if isQuotationMark c then some (2, .plain) else none
  | none => none

/-- What a character adds to the columns of what stands behind it, and what stands behind the character before it. -/
def add (f : Following) (c : Char) : Int × Following :=
  match f.formed? c with
  | some (columns, run) => (columns, ⟨run, none⟩)
  | none =>
    let r := f.withoutForm
    if c.toNat ≤ 0xA0 then (if c = '\r' ∧ r = .lineFeed then 0 else 1, ⟨Run.of c, none⟩)
    else
      match selector? c with
      | some form => (0, select r form)
      | none =>
        if r.isScript ∧ r ≠ .alef ∧ isJoiner c then (0, ⟨r.join, none⟩)
        else if r.isScript ∧ r ≠ .alef ∧ isWithinLigature c then (0, ⟨r, none⟩)
        else
          match (r.ligature? c).or (r.emoji? c) with
          | some (columns, run) => (columns, ⟨run, none⟩)
          | none => (charWidth c, ⟨Run.of c, none⟩)

end Following

/-! ## Texts -/

/-- The columns of a list of characters, and what stands behind a character in front of it. -/
def columns (cs : List Char) : Int × Following :=
  cs.foldr (fun c (total, following) => let (n, next) := following.add c; (n + total, next)) (0, {})

/-- The columns of a text. -/
def width (s : String) : Nat := (columns s.toList).1.toNat

end Readback.Text
