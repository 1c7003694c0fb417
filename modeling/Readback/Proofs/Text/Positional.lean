import Mathlib.Data.List.Forall2
import Mathlib.Data.Nat.Digits.Defs
import Mathlib.Tactic.IntervalCases
import Readback.Text.Numeral

/-!
# Numerals and their positional value

`Denotes base cs n` says that `cs` are one or more digits of a base, in letters of either case, and that `n` is their
positional value; `Writes` allows a plus sign before them. Reading a numeral goes from left to right and gives up as
soon as the number exceeds its bound. The numbers on the way never exceed the last one, so nothing but the value of the
whole numeral decides.

- reading succeeds exactly on the numerals whose value is within the bound (`digits_eq_ok_iff`, `unsigned_eq_ok_iff`);
- the digits of a number denote it, in any case of letters and behind any number of zeros (`denotes_of_map_toLower`).
-/

namespace Readback.Numeral

variable {base bound n d : Nat} {c : Char} {cs : List Char}

/-! ## Digits -/

/-- A character as a digit of a base: the digit of that value in lower or upper case. -/
def IsDigit (base : Nat) (c : Char) (d : Nat) : Prop :=
  d < base ∧ (c = Nat.digitChar d ∨ c = (Nat.digitChar d).toUpper)

theorem toNat_digitChar (h : d < 16) :
    (Nat.digitChar d).toNat = (if d < 10 then d + 48 else d + 87) ∧
      (Nat.digitChar d).toUpper.toNat = if d < 10 then d + 48 else d + 55 := by
  interval_cases d <;> decide

theorem isDigit_iff_toNat (hbase : base ≤ 16) :
    IsDigit base c d ↔
      d < base ∧ (d < 10 ∧ c.toNat = d + 48 ∨ 10 ≤ d ∧ (c.toNat = d + 87 ∨ c.toNat = d + 55)) := by
  refine and_congr_right fun hd => ?_
  obtain ⟨hlower, hupper⟩ := toNat_digitChar (Nat.lt_of_lt_of_le hd hbase)
  rw [← Char.toNat_inj, ← Char.toNat_inj, hlower, hupper]
  split <;> omega

theorem le_iff_toNat {a b : Char} : a ≤ b ↔ a.toNat ≤ b.toNat := by
  rw [Char.le_def, UInt32.le_iff_toNat_le]
  rfl

theorem digit?_eq_some_iff (hbase : base ≤ 16) : digit? base c = some d ↔ IsDigit base c d := by
  obtain ⟨h0, h9⟩ : '0'.toNat = 48 ∧ '9'.toNat = 57 := by decide
  obtain ⟨ha, hf⟩ : 'a'.toNat = 97 ∧ 'f'.toNat = 102 := by decide
  obtain ⟨hA, hF⟩ : 'A'.toNat = 65 ∧ 'F'.toNat = 70 := by decide
  rw [isDigit_iff_toNat hbase]
  simp only [digit?, le_iff_toNat, h0, h9, ha, hf, hA, hF]
  split_ifs <;> simp only [Option.some.injEq, false_iff] <;> omega

theorem toNat_toLower (c : Char) :
    c.toLower.toNat = if 65 ≤ c.toNat ∧ c.toNat ≤ 90 then c.toNat + 32 else c.toNat := by
  have hrange : (c.val ≥ 'A'.val ∧ c.val ≤ 'Z'.val) ↔ 65 ≤ c.toNat ∧ c.toNat ≤ 90 := by
    simp only [ge_iff_le, UInt32.le_iff_toNat_le]
    rfl
  unfold Char.toLower
  by_cases h : 65 ≤ c.toNat ∧ c.toNat ≤ 90
  · rw [dif_pos (hrange.mpr h), if_pos h]
    show (c.val + ('a'.val - 'A'.val)).toNat = c.toNat + 32
    rw [UInt32.toNat_add]
    show (c.toNat + 32) % 2 ^ 32 = c.toNat + 32
    omega
  · rw [dif_neg (fun h' => h (hrange.mp h')), if_neg h]

/-- A character is the digit that its lower case is. -/
theorem isDigit_of_toLower (hbase : base ≤ 16) (hd : d < base) (h : c.toLower = Nat.digitChar d) :
    IsDigit base c d := by
  rw [← Char.toNat_inj, toNat_toLower, (toNat_digitChar (Nat.lt_of_lt_of_le hd hbase)).1] at h
  rw [isDigit_iff_toNat hbase]
  split_ifs at h <;> omega

/-! ## Values -/

/-- One or more digits of a base, and their positional value. -/
def Denotes (base : Nat) (cs : List Char) (n : Nat) : Prop :=
  cs ≠ [] ∧ ∃ ds, List.Forall₂ (IsDigit base) cs ds ∧ Nat.ofDigits base ds.reverse = n

/-- The same after an optional plus sign. -/
def Writes (base : Nat) (cs : List Char) (n : Nat) : Prop :=
  Denotes base cs n ∨ ∃ rest, cs = '+' :: rest ∧ Denotes base rest n

/-- The value of digits that are read onto `acc`. -/
def valueFrom (base acc : Nat) (ds : List Nat) : Nat := ds.foldl (fun acc d => acc * base + d) acc

theorem valueFrom_zero (base : Nat) (ds : List Nat) : valueFrom base 0 ds = Nat.ofDigits base ds.reverse := by
  rw [Nat.ofDigits_eq_foldr, List.foldr_reverse, valueFrom]
  congr 1
  funext acc d
  simp [Nat.mul_comm, Nat.add_comm]

theorem le_valueFrom (hbase : 0 < base) (acc : Nat) (ds : List Nat) : acc ≤ valueFrom base acc ds := by
  induction ds generalizing acc with
  | nil => exact Nat.le_refl acc
  | cons d ds ih =>
    have hstep : acc ≤ acc * base := Nat.le_mul_of_pos_right acc hbase
    exact Nat.le_trans (by omega) (ih (acc * base + d))

/-- **Digits are read if the value of them all is within the bound.** -/
theorem digits_eq_ok_iff (hbase : base ≤ 16) (excess : Problem) {acc : Nat} (hacc : acc ≤ bound) :
    digits base bound excess cs acc = .ok n ↔
      (∃ ds, List.Forall₂ (IsDigit base) cs ds ∧ valueFrom base acc ds = n) ∧ n ≤ bound := by
  induction cs generalizing acc with
  | nil =>
    simp only [digits, List.forall₂_nil_left_iff, exists_eq_left]
    constructor
    · rintro ⟨rfl⟩
      exact ⟨rfl, hacc⟩
    · rintro ⟨rfl, -⟩
      rfl
  | cons c cs ih =>
    simp only [digits, List.forall₂_cons_left_iff]
    cases hd : digit? base c with
    | none =>
      refine ⟨nofun, ?_⟩
      rintro ⟨⟨_, ⟨d, ds, hc, -, -⟩, -⟩, -⟩
      rw [← digit?_eq_some_iff hbase, hd] at hc
      cases hc
    | some d =>
      have hc := (digit?_eq_some_iff hbase).mp hd
      by_cases hfit : bound < acc * base + d
      · -- The value of the whole numeral is no less than the number that is too large already.
        simp only [if_pos hfit]
        refine ⟨nofun, ?_⟩
        rintro ⟨⟨_, ⟨d', ds, hc', -, rfl⟩, hvalue⟩, hn⟩
        rw [← digit?_eq_some_iff hbase, hd] at hc'
        obtain rfl := Option.some.inj hc'
        have hle := le_valueFrom (Nat.zero_lt_of_lt hc.1) (acc * base + d) ds
        rw [← hvalue] at hn
        exact absurd (Nat.lt_of_lt_of_le hfit hle) (Nat.not_lt.mpr hn)
      · simp only [if_neg hfit]
        rw [ih (Nat.le_of_not_lt hfit)]
        refine and_congr_left fun _ => ?_
        constructor
        · rintro ⟨ds, hds, hvalue⟩
          exact ⟨d :: ds, ⟨d, ds, hc, hds, rfl⟩, hvalue⟩
        · rintro ⟨_, ⟨d', ds, hc', hds, rfl⟩, hvalue⟩
          rw [← digit?_eq_some_iff hbase, hd] at hc'
          obtain rfl := Option.some.inj hc'
          exact ⟨ds, hds, hvalue⟩

theorem someDigits_eq_ok_iff (hbase : base ≤ 16) (excess : Problem) :
    someDigits base bound excess cs = .ok n ↔ Denotes base cs n ∧ n ≤ bound := by
  cases cs with
  | nil => exact ⟨nofun, fun h => absurd rfl h.1.1⟩
  | cons c cs =>
    have hread : someDigits base bound excess (c :: cs) = digits base bound excess (c :: cs) 0 := rfl
    rw [hread, digits_eq_ok_iff hbase excess (Nat.zero_le bound)]
    simp only [valueFrom_zero, Denotes, ne_eq, reduceCtorEq, not_false_eq_true, true_and]

theorem not_denotes_plus (hbase : base ≤ 16) (cs : List Char) (n : Nat) : ¬ Denotes base ('+' :: cs) n := by
  rintro ⟨-, ds, hds, -⟩
  obtain ⟨d, ds, hplus, -, rfl⟩ := List.forall₂_cons_left_iff.mp hds
  rw [isDigit_iff_toNat hbase] at hplus
  have hchar : '+'.toNat = 43 := rfl
  omega

/-- **A numeral is read exactly if its value is within the bound.** -/
theorem unsigned_eq_ok_iff (hbase : base ≤ 16) : unsigned base bound cs = .ok n ↔ Writes base cs n ∧ n ≤ bound := by
  rw [Writes]
  unfold unsigned
  split
  · refine ⟨nofun, ?_⟩
    rintro ⟨hnil | ⟨rest, hrest, -⟩, -⟩
    · exact absurd rfl hnil.1
    · cases hrest
  · next cs =>
    rw [someDigits_eq_ok_iff hbase]
    refine and_congr_left fun _ => ?_
    constructor
    · intro h
      exact .inr ⟨cs, rfl, h⟩
    · rintro (h | ⟨rest, hrest, h⟩)
      · exact absurd h (not_denotes_plus hbase cs n)
      · rwa [(List.cons.inj hrest).2]
  · next hplus =>
    rw [someDigits_eq_ok_iff hbase]
    refine and_congr_left fun _ => ?_
    constructor
    · exact .inl
    · rintro (h | ⟨rest, hrest, -⟩)
      · exact h
      · exact absurd hrest (hplus rest)

/-! ## Spellings -/

theorem Denotes.append_digit (h : Denotes base cs n) (hc : IsDigit base c d) :
    Denotes base (cs ++ [c]) (n * base + d) := by
  obtain ⟨-, ds, hds, rfl⟩ := h
  refine ⟨by simp, ds ++ [d], List.rel_append hds (.cons hc .nil), ?_⟩
  rw [List.reverse_append, List.reverse_singleton, List.singleton_append, Nat.ofDigits_cons, Nat.mul_comm, Nat.add_comm]

theorem Denotes.zeros (hbase : 0 < base) (h : Denotes base cs n) (k : Nat) :
    Denotes base (List.replicate k '0' ++ cs) n := by
  induction k with
  | zero => exact h
  | succ k ih =>
    obtain ⟨-, ds, hds, rfl⟩ := ih
    refine ⟨by simp [List.replicate_succ], 0 :: ds, .cons ⟨hbase, .inl rfl⟩ hds, ?_⟩
    rw [List.reverse_cons, Nat.ofDigits_append]
    simp

/-- **The digits of a number denote it**, whatever the case of their letters. -/
theorem denotes_of_map_toLower (hbase : 1 < base) (hbase' : base ≤ 16) (h : cs.map Char.toLower = Nat.toDigits base n) :
    Denotes base cs n := by
  induction n using Nat.strongRecOn generalizing cs with
  | ind n ih =>
    by_cases hn : n < base
    · rw [Nat.toDigits_of_lt_base hn] at h
      obtain ⟨c, rfl, hc⟩ := List.map_eq_singleton_iff.mp h
      refine ⟨by simp, [n], .cons (isDigit_of_toLower hbase' hn hc) .nil, ?_⟩
      simp
    · rw [Nat.toDigits_of_base_le hbase (Nat.le_of_not_lt hn)] at h
      obtain ⟨cs, last, rfl, hcs, hlast⟩ := List.map_eq_append_iff.mp h
      obtain ⟨c, rfl, hc⟩ := List.map_eq_singleton_iff.mp hlast
      have hlead := ih (n / base) (Nat.div_lt_self (by omega) hbase) hcs
      have hdigit := isDigit_of_toLower hbase' (Nat.mod_lt n (by omega)) hc
      rw [← Nat.div_add_mod' n base]
      exact hlead.append_digit hdigit

end Readback.Numeral
