import Readback.Text.Numeral

/-!
# Patterns

Whether a text is a well-formed pattern for values: literal characters, classes of them in brackets, groups in
parentheses, alternatives, and repetitions of what stands before them. Nothing is matched against a pattern here.
-/

namespace Readback.Log

namespace Pattern

/-! ## Escapes -/

/-- A character behind a backslash that stands for itself. -/
def isEscapable (c : Char) : Bool := c.toNat < 0x80 && !c.isAlphanum && c ≠ '<' && c ≠ '>'

/-- The character that an escape stands for, and what follows it. -/
def literal? : List Char → Option (Char × List Char)
  | [] => none
  | c :: cs =>
    let hex (count : Nat) : Option (Char × List Char) := do
      let digits ← (cs.take count).mapM (Numeral.digit? 16)
      let n := digits.foldl (· * 16 + ·) 0
      guard (digits.length = count ∧ n.isValidChar)
      return (Char.ofNat n, cs.drop count)
    match c with
    | 'a' => some ('\x07', cs)
    | 'f' => some ('\x0C', cs)
    | 'n' => some ('\n', cs)
    | 'r' => some ('\r', cs)
    | 't' => some ('\t', cs)
    | 'v' => some ('\x0B', cs)
    | 'x' => hex 2
    | 'u' => hex 4
    | 'U' => hex 8
    | c => if isEscapable c then some (c, cs) else none

/-- What follows an escape outside of a class, where it can also stand for the start or the end of the text. -/
def afterEscape? : List Char → Option (List Char)
  | 'A' :: cs | 'z' :: cs => some cs
  | cs => (literal? cs).map (·.2)

/-! ## Classes -/

/-- What stands at the start of a class: a negation, hyphens, or a bracket, which there does not close it. -/
def dropClassStart (cs : List Char) : List Char :=
  let cs := if cs.head? = some '^' then cs.drop 1 else cs
  match cs with
  | ']' :: cs => cs
  | cs => cs.dropWhile (· = '-')

/-- A character of a class, and what follows it. -/
def member? : List Char → Option (Char × List Char)
  | '\\' :: cs => literal? cs
  | c :: cs => some (c, cs)
  | [] => none

/-- What follows a class, within `depth` others; `fuel` bounds the characters read. -/
def afterClass? : Nat → Nat → List Char → Option (List Char)
  | 0, _, _ => none
  | _ + 1, _, [] => none
  | _ + 1, 0, ']' :: cs => some cs
  | fuel + 1, depth + 1, ']' :: cs => afterClass? fuel depth cs
  | fuel + 1, depth, '[' :: cs => afterClass? fuel (depth + 1) (dropClassStart cs)
  | fuel + 1, depth, cs => do
    let (first, rest) ← member? cs
    match rest with
    | '-' :: c :: _ =>
      if c = ']' ∨ c = '-' then afterClass? fuel depth rest
      else
        let (last, rest) ← member? (rest.drop 1)
        if first ≤ last then afterClass? fuel depth rest else none
    | _ => afterClass? fuel depth rest

/-! ## Groups -/

/-- Whether characters are the name of a group. -/
def isGroupName (cs : List Char) : Bool :=
  cs.head?.any (fun c => c.isAlpha || c = '_') && cs.all fun c => c.isAlphanum || c ∈ ['_', '.', '[', ']']

/-- What follows the start of a group behind its parenthesis, and whether a group was opened at all: there can be a
name, or settings, which can also stand alone. -/
def afterGroupStart? : List Char → Option (Bool × List Char)
  | '?' :: 'P' :: '<' :: cs | '?' :: '<' :: cs =>
    match cs.dropWhile (· ≠ '>') with
    | _ :: rest => if isGroupName (cs.takeWhile (· ≠ '>')) then some (true, rest) else none
    | [] => none
  | '?' :: cs =>
    let isSetting (c : Char) : Bool := c ∈ ['m', 's', 'U', 'x', 'R', '-']
    match cs.dropWhile isSetting with
    | ':' :: rest => some (true, rest)
    | ')' :: rest => if (cs.takeWhile isSetting).isEmpty then none else some (false, rest)
    | _ => none
  | cs => some (true, cs)

/-! ## Patterns -/

/-- Whether characters are well formed within `depth` groups, where `repeatable` tells whether something that can be
repeated stands before them; `fuel` bounds the characters read. -/
def isWellFormed : Nat → Nat → Bool → List Char → Bool
  | 0, _, _, _ => false
  | _ + 1, depth, _, [] => depth = 0
  | fuel + 1, depth, repeatable, c :: cs =>
    match c with
    | '(' =>
      match afterGroupStart? cs with
      | some (opened, rest) => isWellFormed fuel (if opened then depth + 1 else depth) false rest
      | none => false
    | ')' => 0 < depth && isWellFormed fuel (depth - 1) true cs
    | '|' => isWellFormed fuel depth false cs
    | '*' | '+' | '?' => repeatable && isWellFormed fuel depth true cs
    | '\x7b' => false
    | '[' =>
      match afterClass? fuel 0 (dropClassStart cs) with
      | some rest => isWellFormed fuel depth true rest
      | none => false
    | '\\' =>
      match afterEscape? cs with
      | some rest => isWellFormed fuel depth true rest
      | none => false
    | _ => isWellFormed fuel depth true cs

end Pattern

/-- Whether a text can be asked for as a value: a number, or a well-formed pattern. -/
def isValuePattern (text : String) : Bool :=
  (Numeral.uint64 text).isOk || Pattern.isWellFormed (text.length + 1) 0 false text.toList

end Readback.Log
