import Mathlib.Tactic.IntervalCases
import Readback.Wire.Body

/-!
# Message bodies round trip

Every 64-bit integer is read back from the body that carries it, by any form whose field has the name `value`; the forms
of two ends of the wire need nothing else in common.

- a numeral is its leading digits and its last one (`numeral_of_ge`), so reading its digits gives the number again
  (`digits_numeral`), and its first digit is no zero unless it is the only one (`numeral_head`);
- an integer is read as its sign and a number (`int64_integerText_eq`), and is read back whatever follows, as long as
  that cannot go on with the number (`int64_integerText`);
- **`Form.body_encode`**: a body is read back and what follows it is left; **`Form.wholeBody_encode`**: alone it is a
  whole one;
- a body is short (`Form.length_encode_le`).
-/

namespace Readback.Wire

/-! ## Numerals -/

/-- The decimal digits of a number, as bytes. -/
def numeral (n : Nat) : List UInt8 := Text.ascii (Numeral.natText n)

/-- The byte of a digit. -/
def digitByte (d : Nat) : UInt8 := UInt8.ofNat (Nat.digitChar d).toNat

theorem digitByte_spec {d : Nat} (h : d < 10) : isDigit (digitByte d) = true ∧ digitValue (digitByte d) = d := by
  interval_cases d <;> decide

theorem digitByte_eq_zero {d : Nat} (h : d < 10) (hd : digitByte d = 48) : d = 0 := by
  have hvalue := (digitByte_spec h).2
  rw [hd] at hvalue
  exact hvalue.symm

theorem ascii_append (s t : String) : Text.ascii (s ++ t) = Text.ascii s ++ Text.ascii t := by
  simp only [Text.ascii, String.toList_append, List.map_append]

theorem numeral_eq (n : Nat) : numeral n = (Nat.toDigits 10 n).map fun c => UInt8.ofNat c.toNat := by
  rw [numeral, Text.ascii, Numeral.natText, String.toList_ofList]

theorem numeral_of_lt {n : Nat} (h : n < 10) : numeral n = [digitByte n] := by
  rw [numeral_eq, Nat.toDigits_of_lt_base h]
  rfl

/-- The last digit comes off the end. -/
theorem numeral_of_ge {n : Nat} (h : 10 ≤ n) : numeral n = numeral (n / 10) ++ [digitByte (n % 10)] := by
  rw [numeral_eq, Nat.toDigits_of_base_le (by decide) h, List.map_append, ← numeral_eq]
  rfl

/-- A numeral starts with a digit, which is no zero unless the number is. -/
theorem numeral_head (n : Nat) :
    ∃ d ds, numeral n = digitByte d :: ds ∧ d < 10 ∧ (0 < n → 0 < d) := by
  induction n using Nat.strongRecOn with
  | ind n ih =>
    by_cases h : n < 10
    · exact ⟨n, [], numeral_of_lt h, h, id⟩
    · obtain ⟨d, ds, hds, hd, hpos⟩ := ih (n / 10) (by omega)
      refine ⟨d, ds ++ [digitByte (n % 10)], ?_, hd, fun _ => hpos (by omega)⟩
      rw [numeral_of_ge (by omega), hds, List.cons_append]

theorem length_numeral_le {n : Nat} (h : n < UInt64.size) : (numeral n).length ≤ 20 := by
  have hbound : n < 10 ^ 20 := Nat.lt_trans h (by decide)
  rw [numeral_eq, List.length_map]
  exact (Nat.length_toDigits_le_iff (by decide) (by decide)).mpr hbound

/-! ## Digits -/

theorem digits_cons {acc : Nat} {b : UInt8} (rest : List UInt8) (hb : isDigit b = true)
    (hfit : acc * 10 + digitValue b < UInt64.size) :
    digits acc (b :: rest) = digits (acc * 10 + digitValue b) rest := by
  rw [digits, if_pos ⟨hb, hfit⟩]

theorem digits_of_not_next {s : List UInt8} (acc : Nat) (h : digitNext s = false) : digits acc s = (acc, s) := by
  cases s with
  | nil => rfl
  | cons b rest =>
    have hb : isDigit b = false := h
    rw [digits, if_neg]
    simp [hb]

/-- Digits that are read to their end are read on behind it. -/
theorem digits_append {xs : List UInt8} {acc n : Nat} (ys : List UInt8) (h : digits acc xs = (n, [])) :
    digits acc (xs ++ ys) = digits n ys := by
  induction xs generalizing acc with
  | nil =>
    cases h
    rfl
  | cons b xs ih =>
    rw [List.cons_append, digits]
    rw [digits] at h
    split at h
    · rw [if_pos ‹_›]
      exact ih h
    · cases h

/-- **Reading the digits of a number gives the number.** -/
theorem digits_numeral {n : Nat} (hn : n < UInt64.size) : digits 0 (numeral n) = (n, []) := by
  induction n using Nat.strongRecOn with
  | ind n ih =>
    by_cases h : n < 10
    · obtain ⟨hdigit, hvalue⟩ := digitByte_spec h
      rw [numeral_of_lt h, digits_cons [] hdigit (by omega), hvalue, Nat.zero_mul, Nat.zero_add]
      rfl
    · -- The leading digits are those of `n / 10`, and one more digit makes `n` of it.
      obtain ⟨hdigit, hvalue⟩ := digitByte_spec (Nat.mod_lt n (by decide : 0 < 10))
      have hsplit : n / 10 * 10 + digitValue (digitByte (n % 10)) = n := by omega
      rw [numeral_of_ge (by omega), digits_append _ (ih (n / 10) (by omega) (by omega)),
        digits_cons [] hdigit (by omega), hsplit]
      rfl

/-! ## Integers -/

/-- What follows cannot go on with a number. -/
def endsNumber (s : List UInt8) : Bool := !digitNext s && s.head? != some 46 && !exponentNext s

theorem endsNumber_iff {s : List UInt8} :
    endsNumber s = true ↔ digitNext s = false ∧ s.head? ≠ some 46 ∧ exponentNext s = false := by
  simp only [endsNumber, Bool.and_eq_true, Bool.not_eq_true', bne_iff_ne, and_assoc]

theorem afterInteger_of_endsNumber {s : List UInt8} (negative : Bool) (n : Nat) (h : endsNumber s = true) :
    afterInteger negative n s = .ok (integer negative n, s) := by
  obtain ⟨hdigit, hpoint, hexponent⟩ := endsNumber_iff.mp h
  simp [afterInteger, hdigit, hpoint, hexponent]

theorem unsignedNumber_of_digit {b : UInt8} (negative : Bool) (rest : List UInt8) (hb : b ≠ 48)
    (hdigit : isDigit b = true) :
    unsignedNumber negative (b :: rest) =
      afterInteger negative (digits (digitValue b) rest).1 (digits (digitValue b) rest).2 := by
  rw [unsignedNumber, if_pos hdigit]
  exact hb

/-- A number that is no zero is read digit by digit. -/
theorem unsignedNumber_of_pos {n : Nat} (negative : Bool) (rest : List UInt8) (hpos : 0 < n) :
    unsignedNumber negative (numeral n ++ rest) =
      afterInteger negative (digits 0 (numeral n ++ rest)).1 (digits 0 (numeral n ++ rest)).2 := by
  obtain ⟨d, ds, hds, hd, hlead⟩ := numeral_head n
  obtain ⟨hdigit, hvalue⟩ := digitByte_spec hd
  have hne : digitByte d ≠ 48 := fun heq => absurd (digitByte_eq_zero hd heq) (Nat.ne_of_gt (hlead hpos))
  -- The first digit has its own case; together with it the digits are those of the whole numeral.
  have hfit : 0 * 10 + digitValue (digitByte d) < UInt64.size := by
    rw [hvalue, Nat.zero_mul, Nat.zero_add]
    exact Nat.lt_trans hd (by decide)
  rw [hds, List.cons_append, unsignedNumber_of_digit negative _ hne hdigit, digits_cons _ hdigit hfit, Nat.zero_mul,
    Nat.zero_add]

/-- A number is read from its numeral. -/
theorem unsignedNumber_numeral {n : Nat} {rest : List UInt8} (negative : Bool) (hn : n < UInt64.size)
    (h : endsNumber rest = true) :
    unsignedNumber negative (numeral n ++ rest) = .ok (integer negative n, rest) := by
  have hnext := (endsNumber_iff.mp h).1
  rcases Nat.eq_zero_or_pos n with rfl | hpos
  · rw [numeral_of_lt (by decide)]
    show (if digitNext rest then _ else _) = _
    rw [hnext, if_neg Bool.false_ne_true]
    exact afterInteger_of_endsNumber negative 0 h
  · rw [unsignedNumber_of_pos negative rest hpos, digits_append rest (digits_numeral hn), digits_of_not_next n hnext]
    exact afterInteger_of_endsNumber negative n h

theorem integer_nonneg (n : Nat) : integer false n = .int n := rfl

theorem integer_neg {n : Nat} (h : n + 1 ≤ UInt64.size / 2) : integer true (n + 1) = .int (.negSucc n) := by
  simp only [integer, Bool.not_true, Bool.false_eq_true, if_false, if_pos (And.intro (Nat.succ_pos n) h)]
  rw [Int.negSucc_eq, Int.natCast_add, Int.natCast_one]

/-- An integer as it stands in a body. -/
def integerText (i : Int) : List UInt8 := Text.ascii (Numeral.intText i)

theorem integerText_nonneg (n : Nat) : integerText n = numeral n := rfl

theorem integerText_neg (n : Nat) : integerText (.negSucc n) = 45 :: numeral (n + 1) := by
  rw [integerText, Numeral.intText, ascii_append]
  rfl

/-- A digit is neither a blank nor a minus sign. -/
theorem digitByte_ne {d : Nat} (h : d < 10) : isBlank (digitByte d) = false ∧ digitByte d ≠ 45 := by
  interval_cases d <;> decide

theorem decide_natCast_lt_zero (n : Nat) : decide ((n : Int) < 0) = false := decide_eq_false (by omega)

theorem decide_negSucc_lt_zero (n : Nat) : decide (Int.negSucc n < 0) = true :=
  decide_eq_true (Int.negSucc_lt_zero n)

/-- An integer is its sign and the number behind it. -/
theorem int64_integerText_eq (i : Int) (rest : List UInt8) :
    int64 (integerText i ++ rest) =
      (unsignedNumber (decide (i < 0)) (numeral i.natAbs ++ rest)).bind fun read => read.1.int64 read.2 := by
  cases i with
  | ofNat n =>
    obtain ⟨d, ds, hds, hd, -⟩ := numeral_head n
    obtain ⟨hblank, hminus⟩ := digitByte_ne hd
    have hskip : skipBlanks (digitByte d :: (ds ++ rest)) = digitByte d :: (ds ++ rest) := by
      rw [skipBlanks, List.dropWhile_cons_of_neg (by simp [hblank])]
    rw [Int.ofNat_eq_natCast, integerText_nonneg, Int.natAbs_natCast, decide_natCast_lt_zero, hds, List.cons_append]
    simp only [int64, hskip, if_neg hminus, (digitByte_spec hd).1, if_true]
    rfl
  | negSucc n =>
    rw [integerText_neg, decide_negSucc_lt_zero]
    rfl

theorem int64_int (v : Int64) (rest : List UInt8) : (Number.int v.toInt).int64 rest = .ok (v, rest) := by
  have hrange : Int64.minValue.toInt ≤ v.toInt ∧ v.toInt ≤ Int64.maxValue.toInt :=
    ⟨Int64.le_iff_toInt_le.mp (Int64.minValue_le v), Int64.le_iff_toInt_le.mp (Int64.le_maxValue v)⟩
  simp only [Number.int64, if_pos hrange, Int64.ofInt_toInt]

/-- An integer of 64 bits is a natural number or the negative of one, and fits in either case. -/
theorem toInt_cases (v : Int64) :
    (∃ n : Nat, v.toInt = n ∧ n < UInt64.size) ∨ ∃ n : Nat, v.toInt = .negSucc n ∧ n + 1 ≤ UInt64.size / 2 := by
  have hsize : UInt64.size = 2 ^ 64 := rfl
  have hlow := Int64.le_toInt v
  have hhigh := Int64.toInt_lt v
  cases hv : v.toInt with
  | ofNat n =>
    rw [hv, Int.ofNat_eq_natCast] at hhigh
    exact .inl ⟨n, rfl, by omega⟩
  | negSucc n =>
    rw [hv] at hlow
    exact .inr ⟨n, rfl, by omega⟩

/-- The sign and the digits of a 64-bit integer make it up again. -/
theorem integer_toInt (v : Int64) :
    v.toInt.natAbs < UInt64.size ∧ integer (decide (v.toInt < 0)) v.toInt.natAbs = .int v.toInt := by
  rcases toInt_cases v with ⟨n, hv, hn⟩ | ⟨n, hv, hn⟩
  · rw [hv, decide_natCast_lt_zero]
    exact ⟨hn, integer_nonneg n⟩
  · rw [hv, decide_negSucc_lt_zero]
    exact ⟨Nat.lt_of_le_of_lt hn (by decide), integer_neg hn⟩

/-- **Every 64-bit integer is read back**, whatever follows that cannot go on with it. -/
theorem int64_integerText (v : Int64) {rest : List UInt8} (h : endsNumber rest = true) :
    int64 (integerText v.toInt ++ rest) = .ok (v, rest) := by
  obtain ⟨hfits, hinteger⟩ := integer_toInt v
  rw [int64_integerText_eq, unsignedNumber_numeral _ hfits h, hinteger]
  exact int64_int v rest

/-! ## Bodies -/

/-- The body that has an integer, in decimal, where the value stands. -/
def integerBody (i : Int) : List UInt8 := Text.ascii ("\x7b\"value\":" ++ Numeral.intText i ++ "\x7d")

variable {f g : Form}

/-- The body of a value has the value in decimal. -/
theorem Form.encode_eq (hf : f.field = "value") (v : Int64) : f.encode v = integerBody v.toInt := by
  have hpieces : Json.pieces (.obj [("value", Value.json v)]) =
      ["\x7b", Json.quote "value", ":", Numeral.intText v.toInt, "\x7d"] := by
    simp only [Json.pieces, Json.fieldPieces, Value.json, List.cons_append, List.nil_append, List.append_nil]
  rw [encode, hf, Json.compact, hpieces, integerBody]
  simp only [Text.ascii, String.toList_join, String.toList_append, List.flatMap_cons, List.flatMap_nil,
    List.map_append, List.append_assoc]
  rfl

/-- The body is the name of the field, the integer and the closing bracket. -/
theorem integerBody_eq (i : Int) : integerBody i = Text.ascii "\x7b\"value\":" ++ integerText i ++ [125] := by
  rw [integerBody, ascii_append, ascii_append]
  rfl

/-- The field is read behind its name, and the object goes on. -/
theorem Form.fields_value (hf : f.field = "value") (fuel : Nat) (s : List UInt8) :
    f.fields (fuel + 1) true none (Text.ascii "\"value\":" ++ s) =
      (int64 s).bind fun read => f.fields fuel false (some read.1) read.2 := by
  have hkey : nextKey true (Text.ascii "\"value\":" ++ s) = .ok (some (Text.ascii "value\":" ++ s)) := rfl
  have hname : string (Text.ascii "value\":" ++ s) = .ok ("value".toList, colon :: s) := rfl
  have hcolon : skipColon (colon :: s) = .ok s := rfl
  simp only [fields, hkey, hname, hf, hcolon, bind, Except.bind, if_true]

/-- The object ends, and what follows it is left. -/
theorem Form.fields_end (f : Form) (v : Int64) (fuel : Nat) (rest : List UInt8) :
    f.fields (fuel + 1) false (some v) (125 :: rest) = .ok (v, rest) := by
  have hkey : nextKey false (125 :: rest) = .ok none := rfl
  have hleave : leaveObject (125 :: rest) = rest := rfl
  simp only [fields, hkey, hleave, bind, Except.bind]

/-- What is read of a body is what is read of its integer. -/
theorem Form.body_integerBody (hf : f.field = "value") (i : Int) (rest : List UInt8) :
    ∃ fuel, f.body (integerBody i ++ rest) = (int64 (integerText i ++ 125 :: rest)).bind fun read =>
      f.fields (fuel + 1) false (some read.1) read.2 := by
  have hopen (s : List UInt8) : f.body (123 :: s) = f.fields (s.length + 1) true none s := rfl
  have hbody : integerBody i ++ rest = 123 :: (Text.ascii "\"value\":" ++ (integerText i ++ 125 :: rest)) := by
    rw [integerBody_eq, List.append_assoc, List.append_assoc]
    rfl
  refine ⟨(Text.ascii "value\":" ++ (integerText i ++ 125 :: rest)).length, ?_⟩
  rw [hbody, hopen, fields_value hf]
  rfl

/-- **A body that one end writes is read back at the other, and what follows it is left.** -/
theorem Form.body_encode (hf : f.field = "value") (hg : g.field = "value") (v : Int64) (rest : List UInt8) :
    g.body (f.encode v ++ rest) = .ok (v, rest) := by
  obtain ⟨fuel, hbody⟩ := body_integerBody hg v.toInt rest
  rw [encode_eq hf, hbody, int64_integerText v rfl]
  exact g.fields_end v fuel rest

/-- A body that stands alone is a whole one. -/
theorem Form.wholeBody_encode (hf : f.field = "value") (hg : g.field = "value") (v : Int64) :
    g.wholeBody (f.encode v) = .ok v := by
  have h := body_encode hf hg v []
  rw [List.append_nil] at h
  rw [wholeBody, h]
  rfl

theorem length_integerText_le (v : Int64) : (integerText v.toInt).length ≤ 21 := by
  rcases toInt_cases v with ⟨n, hv, hn⟩ | ⟨n, hv, hn⟩
  · rw [hv, integerText_nonneg]
    exact Nat.le_succ_of_le (length_numeral_le hn)
  · rw [hv, integerText_neg, List.length_cons]
    exact Nat.succ_le_succ (length_numeral_le (Nat.lt_of_le_of_lt hn (by decide)))

/-- A body is short. -/
theorem Form.length_encode_le (hf : f.field = "value") (v : Int64) : (f.encode v).length ≤ 31 := by
  have hlen := length_integerText_le v
  have hname : (Text.ascii "\x7b\"value\":").length = 9 := by decide
  rw [encode_eq hf, integerBody_eq, List.length_append, List.length_append, hname]
  simp only [List.length_cons, List.length_nil]
  omega

end Readback.Wire
