import Readback.Proofs.Wire.RoundTrip

/-!
# Message bodies are read exactly

A body that has an integer in decimal where the value stands is read as that integer or not at all. Every number of
digits can stand there, and what 64 bits do not hold is never cut down to them.

- a number too long for 64 bits is read up to some digit, and the digits behind it make it a floating-point number
  (`digits_numeral_of_size_le`, `unsignedNumber_of_size_le`);
- a number that is read as an integer is the one that was written (`unsignedNumber_sound`), so an integer is read as `v`
  exactly if it is `v` (`int64_integerText_iff`);
- **`Form.body_integerBody_iff`** and **`Form.wholeBody_integerBody_iff`**: the same for a body, with or without a rest.
-/

namespace Readback.Wire

/-! ## Numbers past 64 bits -/

theorem digits_of_full {acc : Nat} {b : UInt8} (rest : List UInt8) (h : UInt64.size ≤ acc * 10 + digitValue b) :
    digits acc (b :: rest) = (acc, b :: rest) := by
  rw [digits, if_neg]
  omega

/-- The digits of a number too long for 64 bits are not read to their end. -/
theorem digits_numeral_of_size_le {n : Nat} (rest : List UInt8) (hn : UInt64.size ≤ n) :
    ∃ m d ds, digits 0 (numeral n ++ rest) = (m, digitByte d :: ds ++ rest) ∧ d < 10 ∧ ∀ b ∈ ds, isDigit b = true := by
  have hsize : 10 ≤ UInt64.size := by decide
  induction n using Nat.strongRecOn generalizing rest with
  | ind n ih =>
    have hlast : n % 10 < 10 := Nat.mod_lt n (by decide)
    obtain ⟨hdigit, hvalue⟩ := digitByte_spec hlast
    rw [numeral_of_ge (by omega), List.append_assoc]
    by_cases h : n / 10 < UInt64.size
    · -- All digits but the last one fit, and with the last one they do not.
      refine ⟨n / 10, n % 10, [], ?_, hlast, List.forall_mem_nil _⟩
      rw [digits_append _ (digits_numeral h), List.singleton_append, digits_of_full rest (by omega)]
    · obtain ⟨m, d, ds, hread, hd, hds⟩ := ih (n / 10) (by omega) ([digitByte (n % 10)] ++ rest) (by omega)
      refine ⟨m, d, ds ++ [digitByte (n % 10)], ?_, hd, ?_⟩
      · rw [hread, ← List.append_assoc, List.cons_append]
      · exact List.forall_mem_append.mpr ⟨hds, List.forall_mem_singleton.mpr hdigit⟩

/-- More digits than 64 bits hold make a floating-point number. -/
theorem afterInteger_of_digits {d : Nat} {ds rest : List UInt8} (negative : Bool) (m : Nat) (hd : d < 10)
    (hds : ∀ b ∈ ds, isDigit b = true) (h : endsNumber rest = true) :
    ∃ point, afterInteger negative m (digitByte d :: ds ++ rest) = float negative m point rest := by
  obtain ⟨hstop, hpoint, hexponent⟩ := endsNumber_iff.mp h
  have hdigit := (digitByte_spec hd).1
  have hnext : digitNext (digitByte d :: ds ++ rest) = true := hdigit
  have hend : rest.dropWhile isDigit = rest := by
    cases rest with
    | nil => rfl
    | cons b rest => exact List.dropWhile_cons_of_neg (by simpa [digitNext] using hstop)
  have hskip : (digitByte d :: ds ++ rest).dropWhile isDigit = rest := by
    rw [List.dropWhile_append_of_pos (by simpa [hdigit] using hds), hend]
  refine ⟨((digitByte d :: ds ++ rest).length - rest.length : Nat), ?_⟩
  simp only [afterInteger, hnext, hskip, if_true, if_neg hpoint, afterDigits, hexponent, Bool.false_eq_true, if_false]

/-- A number too long for 64 bits is read as a floating-point number, if it is read at all. -/
theorem unsignedNumber_of_size_le {n : Nat} {rest rest' : List UInt8} {negative : Bool} {number : Number}
    (hn : UInt64.size ≤ n) (h : endsNumber rest = true)
    (hread : unsignedNumber negative (numeral n ++ rest) = .ok (number, rest')) :
    (∃ f, number = .float f) ∧ rest' = rest := by
  obtain ⟨m, d, ds, hdigits, hd, hds⟩ := digits_numeral_of_size_le rest hn
  obtain ⟨point, hfloat⟩ := afterInteger_of_digits negative m hd hds h
  rw [unsignedNumber_of_pos negative rest (Nat.lt_of_lt_of_le (by decide) hn), hdigits, hfloat, float] at hread
  split at hread
  · cases hread
    exact ⟨⟨_, rfl⟩, rfl⟩
  · cases hread

/-! ## Integers -/

theorem exists_of_bind_eq_ok {ε α β : Type} {x : Except ε α} {f : α → Except ε β} {b : β} (h : x.bind f = .ok b) :
    ∃ a, x = .ok a ∧ f a = .ok b := by
  cases x with
  | ok a => exact ⟨a, rfl, h⟩
  | error e => cases h

/-- A sign and digits that make up an integer make up the one that was written. -/
theorem eq_of_integer {i j : Int} (h : integer (decide (i < 0)) i.natAbs = .int j) : j = i := by
  unfold integer at h
  split at h
  · next hsign =>
    have hnonneg : ¬ i < 0 := by simpa using hsign
    cases h
    omega
  · next hsign =>
    have hneg : i < 0 := by simpa using hsign
    split at h
    · cases h
      omega
    · cases h

/-- A number that is read as an integer is the one that was written. -/
theorem unsignedNumber_sound {i j : Int} {rest rest' : List UInt8} (h : endsNumber rest = true)
    (hread : unsignedNumber (decide (i < 0)) (numeral i.natAbs ++ rest) = .ok (.int j, rest')) :
    j = i ∧ rest' = rest := by
  by_cases hn : i.natAbs < UInt64.size
  · rw [unsignedNumber_numeral _ hn h] at hread
    obtain ⟨hinteger, rfl⟩ := Prod.mk.inj (Except.ok.inj hread)
    exact ⟨eq_of_integer hinteger, rfl⟩
  · obtain ⟨⟨f, hfloat⟩, -⟩ := unsignedNumber_of_size_le (by omega) h hread
    cases hfloat

/-- A number that passes for a 64-bit integer is that integer. -/
theorem eq_of_int64_ok {number : Number} {v : Int64} {rest rest' : List UInt8}
    (h : number.int64 rest = .ok (v, rest')) : number = .int v.toInt ∧ rest' = rest := by
  cases number with
  | int i =>
    rw [Number.int64] at h
    split at h
    · next hrange =>
      cases h
      rw [Int64.toInt_ofInt_of_le hrange.1 (Int.lt_of_le_of_lt hrange.2 (by decide))]
      exact ⟨rfl, rfl⟩
    · cases h
  | float f => cases h

/-- **An integer is read as `v` exactly if it is `v`.** -/
theorem int64_integerText_iff {i : Int} {v : Int64} {rest rest' : List UInt8} (h : endsNumber rest = true) :
    int64 (integerText i ++ rest) = .ok (v, rest') ↔ v.toInt = i ∧ rest' = rest := by
  constructor
  · intro hread
    rw [int64_integerText_eq] at hread
    obtain ⟨⟨number, behind⟩, hnumber, hint⟩ := exists_of_bind_eq_ok hread
    obtain ⟨rfl, rfl⟩ := eq_of_int64_ok hint
    exact unsignedNumber_sound h hnumber
  · rintro ⟨rfl, rfl⟩
    exact int64_integerText v h

/-! ## Bodies -/

variable {f : Form}

/-- **A body is read as `v` exactly if its integer is `v`**, and what follows it is left. -/
theorem Form.body_integerBody_iff (hf : f.field = "value") {i : Int} {v : Int64} {rest rest' : List UInt8} :
    f.body (integerBody i ++ rest) = .ok (v, rest') ↔ v.toInt = i ∧ rest' = rest := by
  constructor
  · intro hread
    obtain ⟨fuel, hbody⟩ := body_integerBody hf i rest
    rw [hbody] at hread
    obtain ⟨⟨w, behind⟩, hint, hfields⟩ := exists_of_bind_eq_ok hread
    obtain ⟨hw, rfl⟩ := (int64_integerText_iff rfl).mp hint
    obtain ⟨rfl, rfl⟩ := Prod.mk.inj (Except.ok.inj ((f.fields_end w fuel rest).symm.trans hfields))
    exact ⟨hw, rfl⟩
  · rintro ⟨rfl, rfl⟩
    rw [← encode_eq hf]
    exact body_encode hf hf v _

/-- A body that stands alone is read as `v` exactly if its integer is `v`. -/
theorem Form.wholeBody_integerBody_iff (hf : f.field = "value") {i : Int} {v : Int64} :
    f.wholeBody (integerBody i) = .ok v ↔ v.toInt = i := by
  constructor
  · intro hread
    obtain ⟨⟨w, behind⟩, hbody, hend⟩ := exists_of_bind_eq_ok hread
    rw [← List.append_nil (integerBody i)] at hbody
    obtain ⟨hw, rfl⟩ := (body_integerBody_iff hf).mp hbody
    cases hend
    exact hw
  · rintro rfl
    rw [← encode_eq hf]
    exact wholeBody_encode hf hf v

end Readback.Wire
