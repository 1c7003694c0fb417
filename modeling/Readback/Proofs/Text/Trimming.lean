import Mathlib.Data.List.DropRight
import Readback.Text.Blank

/-!
# What trimming leaves

- dropping from the end leaves the one beginning that does not end in a dropped character, where all that follows it is
  dropped (`dropEndWhile_eq_iff`);
- trimming leaves the one middle part that has blanks around it and at neither end (`trimChars_eq_iff`), and for texts
  `Stripped` says the same (`stripped_iff`);
- more blanks around a text make no difference (`trimChars_append_append`).
-/

namespace Readback.Text

variable {p : Char → Bool} {cs b t before behind : List Char}

/-! ## The end -/

theorem dropWhile_of_head (h : ∀ c ∈ cs.head?, p c = false) : cs.dropWhile p = cs := by
  cases cs with
  | nil => rfl
  | cons c cs =>
    have hc : p c = false := h c rfl
    simp [hc]

theorem head_of_dropWhile (p : Char → Bool) (cs : List Char) : ∀ c ∈ (cs.dropWhile p).head?, p c = false := by
  intro c hc
  have hnot := List.head?_dropWhile_not p cs
  rw [Option.mem_def.mp hc] at hnot
  exact hnot

/-- **Dropping from the end leaves a beginning**: what follows it is dropped, and its own last character is not. -/
theorem dropEndWhile_eq_iff :
    dropEndWhile p cs = b ↔
      ∃ behind, cs = b ++ behind ∧ (∀ c ∈ behind, p c = true) ∧ ∀ c ∈ b.getLast?, p c = false := by
  constructor
  · rintro rfl
    refine ⟨cs.rtakeWhile p, List.rdropWhile_append_rtakeWhile.symm, fun c hc => List.mem_rtakeWhile_imp hc, ?_⟩
    rw [dropEndWhile, List.getLast?_reverse]
    exact head_of_dropWhile p cs.reverse
  · rintro ⟨behind, rfl, hbehind, hlast⟩
    rw [← List.head?_reverse] at hlast
    rw [dropEndWhile, List.reverse_append, List.dropWhile_append_of_pos (by simpa using hbehind),
      dropWhile_of_head hlast, List.reverse_reverse]

/-- Dropping from the end does not reach past a character that is not dropped. -/
theorem dropEndWhile_append (h : ∀ c ∈ b.getLast?, p c = false) :
    dropEndWhile p (b ++ cs) = b ++ dropEndWhile p cs := by
  obtain ⟨behind, hcs, hbehind, hlast⟩ := dropEndWhile_eq_iff.mp (rfl : dropEndWhile p cs = dropEndWhile p cs)
  rw [dropEndWhile_eq_iff]
  refine ⟨behind, ?_, hbehind, fun c hc => ?_⟩
  · rw [List.append_assoc, ← hcs]
  · rw [List.getLast?_append] at hc
    cases hkept : (dropEndWhile p cs).getLast? with
    | none =>
      rw [hkept] at hc
      exact h c hc
    | some c' =>
      rw [hkept] at hc
      exact hlast c (hkept.trans hc)

/-! ## Both ends -/

/-- **Trimming leaves the middle**: there are only blanks around it, and it has none at either end. -/
theorem trimChars_eq_iff :
    trimChars cs = t ↔
      ∃ before behind, cs = before ++ t ++ behind ∧ (∀ c ∈ before, isBlank c = true) ∧
        (∀ c ∈ behind, isBlank c = true) ∧ (∀ c ∈ t.head?, isBlank c = false) ∧
        ∀ c ∈ t.getLast?, isBlank c = false := by
  rw [trimChars, dropEndWhile_eq_iff]
  constructor
  · rintro ⟨behind, hsplit, hbehind, hlast⟩
    refine ⟨cs.takeWhile isBlank, behind, ?_, fun c hc => List.mem_takeWhile_imp hc, hbehind, ?_, hlast⟩
    · rw [List.append_assoc, ← hsplit, List.takeWhile_append_dropWhile]
    · intro c hc
      apply head_of_dropWhile isBlank cs
      cases t with
      | nil => cases hc
      | cons c' t =>
        rw [hsplit]
        exact hc
  · rintro ⟨before, behind, rfl, hbefore, hbehind, hhead, hlast⟩
    rw [List.append_assoc, List.dropWhile_append_of_pos hbefore]
    cases t with
    | nil =>
      -- Nothing is left, and the blanks behind it are dropped with those before it.
      refine ⟨[], ?_, nofun, nofun⟩
      simpa using hbehind
    | cons c t =>
      exact ⟨behind, dropWhile_of_head hhead, hbehind, hlast⟩

theorem trimChars_append_append (hbefore : ∀ c ∈ before, isBlank c = true) (hbehind : ∀ c ∈ behind, isBlank c = true) :
    trimChars (before ++ cs ++ behind) = trimChars cs := by
  obtain ⟨before', behind', hcs, hbefore', hbehind', hends⟩ := trimChars_eq_iff.mp (rfl : trimChars cs = trimChars cs)
  rw [trimChars_eq_iff]
  refine ⟨before ++ before', behind' ++ behind, ?_, ?_, ?_, hends⟩
  · conv_lhs => rw [hcs]
    simp
  · simpa [or_imp, forall_and] using ⟨hbefore, hbefore'⟩
  · simpa [or_imp, forall_and] using ⟨hbehind', hbehind⟩

/-- Trimming does not reach into a part that has no blank at its ends. -/
theorem trimChars_append (hne : b ≠ []) (hhead : ∀ c ∈ b.head?, isBlank c = false)
    (hlast : ∀ c ∈ b.getLast?, isBlank c = false) : trimChars (b ++ cs) = b ++ dropEndWhile isBlank cs := by
  have hkept : (b ++ cs).dropWhile isBlank = b ++ cs := by
    apply dropWhile_of_head
    rwa [List.head?_append_of_ne_nil _ hne]
  rw [trimChars, hkept, dropEndWhile_append hlast]

/-! ## Texts -/

/-- All characters are blanks. -/
def Blank (s : String) : Prop := ∀ c ∈ s.toList, isBlank c = true

instance (s : String) : Decidable (Blank s) := decidable_of_iff (s.toList.all isBlank) List.all_eq_true

/-- A text without the blanks at its ends. -/
def Stripped (s t : String) : Prop :=
  ∃ before behind, s = before ++ t ++ behind ∧ Blank before ∧ Blank behind ∧
    (∀ c ∈ t.toList.head?, isBlank c = false) ∧ ∀ c ∈ t.toList.getLast?, isBlank c = false

variable {s u v : String}

theorem stripped_iff {t : String} : Stripped s t ↔ trim s = t := by
  rw [trim, ← String.toList_inj, String.toList_ofList, trimChars_eq_iff]
  constructor
  · rintro ⟨before, behind, rfl, hbefore, hbehind, hends⟩
    exact ⟨before.toList, behind.toList, by simp, hbefore, hbehind, hends⟩
  · rintro ⟨before, behind, hs, hbefore, hbehind, hends⟩
    refine ⟨.ofList before, .ofList behind, ?_, ?_, ?_, hends⟩
    · rw [← String.toList_inj, hs]
      simp
    · simpa [Blank] using hbefore
    · simpa [Blank] using hbehind

theorem stripped_trim (s : String) : Stripped s (trim s) := stripped_iff.mpr rfl

theorem trim_append_append (hu : Blank u) (hv : Blank v) : trim (u ++ s ++ v) = trim s := by
  rw [trim, trim, String.toList_append, String.toList_append, trimChars_append_append hu hv]

/-- A text that has no blank at its ends is left as it is. -/
theorem trim_eq_self (hhead : ∀ c ∈ s.toList.head?, isBlank c = false)
    (hlast : ∀ c ∈ s.toList.getLast?, isBlank c = false) : trim s = s :=
  stripped_iff.mp ⟨"", "", by simp, nofun, nofun, hhead, hlast⟩

/-- A text that ends in a blank gets shorter. -/
theorem length_trim_lt {c : Char} (hc : c ∈ s.toList.getLast?) (hblank : isBlank c = true) :
    (trim s).length < s.length := by
  obtain ⟨before, behind, hs, -, -, -, hlast⟩ := stripped_trim s
  have hlength := congrArg String.length hs
  rw [String.length_append, String.length_append] at hlength
  -- With nothing behind the part that is left, that part would end in the blank.
  by_contra hnot
  obtain rfl : before = "" := String.length_eq_zero_iff.mp (by omega)
  obtain rfl : behind = "" := String.length_eq_zero_iff.mp (by omega)
  rw [String.empty_append, String.append_empty] at hs
  rw [hs] at hc
  cases (hlast c hc).symm.trans hblank

end Readback.Text
