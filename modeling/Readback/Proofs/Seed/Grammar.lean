import Readback.Program.Run
import Readback.Proofs.Text.Positional
import Readback.Proofs.Text.Trimming

/-!
# The texts that are seeds

`Spells` is the grammar of a seed between its blanks: hexadecimal digits after `0x` or `0X`, else decimal digits, with a
plus sign allowed before the digits, and a value that fits in 64 bits.

- a text is read as a seed exactly if the grammar says so, and is quoted as it was given otherwise (`parse_eq_ok_iff`,
  `parse_eq_error_iff`);
- a seed is read back from its own text and from its hexadecimal digits (`Shows.spells`);
- **`parse_spelled`** has both, and that a run command is replayed by any of these texts of its seed.
-/

namespace Readback.Seed

open Numeral (Writes Denotes)

variable {cs : List Char} {n : Nat} {s text : String} {seed : Seed}

/-! ## The grammar -/

/-- The characters of a seed and their value. -/
inductive Spells : List Char → Nat → Prop
  | hex {x : Char} {cs : List Char} {n : Nat} (hx : x = 'x' ∨ x = 'X') (hcs : Writes 16 cs n) (hn : n < UInt64.size) :
      Spells ('0' :: x :: cs) n
  | decimal {cs : List Char} {n : Nat} (hmark : ∀ x rest, cs = '0' :: x :: rest → x ≠ 'x' ∧ x ≠ 'X')
      (hcs : Writes 10 cs n) (hn : n < UInt64.size) : Spells cs n

theorem Spells.lt_size (h : Spells cs n) : n < UInt64.size := by
  cases h with
  | hex hx hcs hn => exact hn
  | decimal hmark hcs hn => exact hn

theorem spells_hex_iff {x : Char} (hx : x = 'x' ∨ x = 'X') :
    Spells ('0' :: x :: cs) n ↔ Writes 16 cs n ∧ n < UInt64.size := by
  constructor
  · intro h
    cases h with
    | hex _ hcs hn => exact ⟨hcs, hn⟩
    | decimal hmark hcs hn =>
      obtain ⟨hlower, hupper⟩ := hmark x cs rfl
      exact absurd hx (not_or.mpr ⟨hlower, hupper⟩)
  · rintro ⟨hcs, hn⟩
    exact .hex hx hcs hn

theorem unsigned_eq_ok_iff_lt {base : Nat} (hbase : base ≤ 16) :
    Numeral.unsigned base (UInt64.size - 1) cs = .ok n ↔ Writes base cs n ∧ n < UInt64.size := by
  rw [Numeral.unsigned_eq_ok_iff hbase]
  exact and_congr_right fun _ => Nat.le_sub_one_iff_lt (by decide)

theorem numeral?_eq_ok_iff : numeral? cs = .ok n ↔ Spells cs n := by
  unfold numeral?
  split
  · rw [unsigned_eq_ok_iff_lt (by decide), spells_hex_iff (.inl rfl)]
  · rw [unsigned_eq_ok_iff_lt (by decide), spells_hex_iff (.inr rfl)]
  · next hlower hupper =>
    rw [unsigned_eq_ok_iff_lt (by decide)]
    constructor
    · rintro ⟨hcs, hn⟩
      refine .decimal (fun x rest hrest => ⟨?_, ?_⟩) hcs hn
      · rintro rfl
        exact hlower rest hrest
      · rintro rfl
        exact hupper rest hrest
    · intro h
      cases h with
      | decimal hmark hcs hn => exact ⟨hcs, hn⟩
      | @hex x rest n hx hcs hn =>
        rcases hx with rfl | rfl
        · exact absurd rfl (hlower rest)
        · exact absurd rfl (hupper rest)

/-! ## Reading -/

theorem parse_of_spells (h : Spells (Text.trim s).toList seed.value.toNat) : parse s = .ok seed := by
  rw [Text.trim, String.toList_ofList] at h
  rw [parse, numeral?_eq_ok_iff.mpr h]
  simp

/-- **A text is a seed exactly if it is spelled like one.** -/
theorem parse_eq_ok_iff : parse s = .ok seed ↔ Spells (Text.trim s).toList seed.value.toNat := by
  refine ⟨fun h => ?_, parse_of_spells⟩
  rw [parse] at h
  split at h
  · next n hn =>
    have hspells := numeral?_eq_ok_iff.mp hn
    rw [← Except.ok.inj h, Text.trim, String.toList_ofList]
    simp only
    rwa [UInt64.toNat_ofNat_of_lt' hspells.lt_size]
  · cases h

/-- A text that is no seed is quoted as it was given. -/
theorem parse_eq_error_iff {e : SetupError} :
    parse s = .error e ↔ e = .invalidSeed s ∧ ¬ ∃ n, Spells (Text.trim s).toList n := by
  constructor
  · intro h
    constructor
    · rw [parse] at h
      split at h
      · cases h
      · exact (Except.error.inj h).symm
    · rintro ⟨n, hn⟩
      rw [← UInt64.toNat_ofNat_of_lt' hn.lt_size] at hn
      have hparse : parse s = .ok ⟨.ofNat n⟩ := parse_of_spells hn
      cases h.symm.trans hparse
  · rintro ⟨rfl, hnone⟩
    rw [parse]
    split
    · next n hn =>
      rw [numeral?_eq_ok_iff, ← String.toList_ofList (l := Text.trimChars s.toList)] at hn
      exact absurd ⟨n, hn⟩ hnone
    · rfl

/-! ## Writing and reading back -/

/-- The texts of a seed: its own, and its hexadecimal digits in letters of either case and behind any number of
zeros. -/
inductive Shows (seed : Seed) : String → Prop
  | decimal : Shows seed seed.text
  | hex {x : Char} {cs : List Char} (zeros : Nat) (hx : x = 'x' ∨ x = 'X')
      (hcs : cs.map Char.toLower = Nat.toDigits 16 seed.value.toNat) :
      Shows seed (.ofList ('0' :: x :: (List.replicate zeros '0' ++ cs)))

theorem map_toLower_toDigits (n : Nat) : (Nat.toDigits 10 n).map Char.toLower = Nat.toDigits 10 n := by
  induction n using Nat.strongRecOn with
  | ind n ih =>
    have hdigit (d : Nat) (hd : d < 10) : (Nat.digitChar d).toLower = Nat.digitChar d := by interval_cases d <;> rfl
    by_cases hn : n < 10
    · rw [Nat.toDigits_of_lt_base hn, List.map_singleton, hdigit n hn]
    · rw [Nat.toDigits_of_base_le (by decide) (Nat.le_of_not_lt hn), List.map_append, ih (n / 10) (by omega),
        List.map_singleton, hdigit _ (Nat.mod_lt n (by decide))]

/-- The second character of a decimal numeral is no letter. -/
theorem not_mark_of_denotes {x : Char} {rest : List Char} (h : Denotes 10 ('0' :: x :: rest) n) :
    x ≠ 'x' ∧ x ≠ 'X' := by
  obtain ⟨-, ds, hds, -⟩ := h
  obtain ⟨d₀, ds', -, hds', rfl⟩ := List.forall₂_cons_left_iff.mp hds
  obtain ⟨d, -, hx, -, -⟩ := List.forall₂_cons_left_iff.mp hds'
  rw [Numeral.isDigit_iff_toNat (by decide)] at hx
  constructor
  · rintro rfl
    have hchar : 'x'.toNat = 120 := rfl
    omega
  · rintro rfl
    have hchar : 'X'.toNat = 88 := rfl
    omega

theorem Shows.denotes (h : Shows seed text) :
    Denotes 10 text.toList seed.value.toNat ∨
      ∃ x cs, (x = 'x' ∨ x = 'X') ∧ text.toList = '0' :: x :: cs ∧ Denotes 16 cs seed.value.toNat := by
  cases h with
  | decimal =>
    rw [Seed.text, Numeral.natText, String.toList_ofList]
    exact .inl (Numeral.denotes_of_map_toLower (by decide) (by decide) (map_toLower_toDigits _))
  | hex zeros hx hcs =>
    have hdenotes := Numeral.denotes_of_map_toLower (by decide) (by decide) hcs
    exact .inr ⟨_, _, hx, String.toList_ofList, hdenotes.zeros (by decide) zeros⟩

theorem Shows.spells (h : Shows seed text) : Spells text.toList seed.value.toNat := by
  rcases h.denotes with hdenotes | ⟨x, cs, hx, htext, hdenotes⟩
  · refine .decimal (fun x rest hrest => ?_) (.inl hdenotes) seed.value.toNat_lt
    rw [hrest] at hdenotes
    exact not_mark_of_denotes hdenotes
  · rw [htext]
    exact .hex hx (.inl hdenotes) seed.value.toNat_lt

theorem not_isBlank_of_isDigit {base d : Nat} {c : Char} (hbase : base ≤ 16) (h : Numeral.IsDigit base c d) :
    Text.isBlank c = false := by
  rw [Numeral.isDigit_iff_toNat hbase] at h
  simp only [Text.isBlank, Bool.or_eq_false_iff, Bool.and_eq_false_iff, decide_eq_false_iff_not, beq_eq_false_iff_ne]
  omega

theorem not_isBlank_of_denotes {base : Nat} (hbase : base ≤ 16) (h : Denotes base cs n) :
    ∀ c ∈ cs, Text.isBlank c = false := by
  obtain ⟨-, ds, hds, -⟩ := h
  induction hds with
  | nil => exact nofun
  | cons hc _ ih =>
    rw [List.forall_mem_cons]
    exact ⟨not_isBlank_of_isDigit hbase hc, ih⟩

theorem Shows.not_isBlank (h : Shows seed text) : ∀ c ∈ text.toList, Text.isBlank c = false := by
  rcases h.denotes with hdenotes | ⟨x, cs, hx, htext, hdenotes⟩
  · exact not_isBlank_of_denotes (by decide) hdenotes
  · have hmark : Text.isBlank x = false := by rcases hx with rfl | rfl <;> rfl
    rw [htext, List.forall_mem_cons, List.forall_mem_cons]
    exact ⟨rfl, hmark, not_isBlank_of_denotes (by decide) hdenotes⟩

/-- A text of a seed is read back, whatever blanks are around it. -/
theorem Shows.parse (h : Shows seed text) {before behind : String} (hbefore : Text.Blank before)
    (hbehind : Text.Blank behind) : Seed.parse (before ++ text ++ behind) = .ok seed := by
  have hstripped : Text.Stripped (before ++ text ++ behind) text :=
    ⟨before, behind, rfl, hbefore, hbehind, fun c hc => h.not_isBlank c (List.mem_of_mem_head? hc),
      fun c hc => h.not_isBlank c (List.mem_of_mem_getLast? hc)⟩
  apply parse_of_spells
  rw [Text.stripped_iff.mp hstripped]
  exact h.spells

/-- A command to which a seed is given does what it would have done had it drawn this seed itself. -/
theorem execute_of_parse {σ : Type} (h : parse text = .ok seed) (o : CommandLine.RunOptions) (net : Http.Network σ)
    (fresh : Seed) (interrupts : List Moment) (s : σ) :
    Program.execute { o with seed := some text } net fresh interrupts s =
      Program.execute { o with seed := none } net seed interrupts s := by
  have hchecked : Program.checkedSeed { o with seed := some text } fresh =
      Program.checkedSeed { o with seed := none } seed := by
    simp only [Program.checkedSeed, h]
    rfl
  simp only [Program.execute, Program.executeVia, hchecked]
  rfl

/-- **Reading accepts exactly what is spelled like a seed, and undoes writing.** With the blanks at its ends taken off,
a text is read as the number that it spells, and what spells none is refused in the words that were given. So a seed is
read back from its own text and from its hexadecimal digits; the generator is the same again, and so is all that a run
command does. -/
theorem parse_spelled :
    (∀ s seed, parse s = .ok seed ↔ ∃ t, Text.Stripped s t ∧ Spells t.toList seed.value.toNat) ∧
    (∀ s e, parse s = .error e ↔ e = .invalidSeed s ∧ ¬ ∃ t n, Text.Stripped s t ∧ Spells t.toList n) ∧
    ∀ (seed : Seed) (text before behind : String), Shows seed text → Text.Blank before → Text.Blank behind →
      parse (before ++ text ++ behind) = .ok seed ∧
      (∀ (V : Type) (domain : Domain V),
        (parse (before ++ text ++ behind)).bind (Generator.new domain) = Generator.new domain seed) ∧
      ∀ (σ : Type) (o : CommandLine.RunOptions) (net : Http.Network σ) (fresh : Seed) (interrupts : List Moment)
        (s : σ),
        Program.execute { o with seed := some (before ++ text ++ behind) } net fresh interrupts s =
          Program.execute { o with seed := none } net seed interrupts s := by
  refine ⟨fun s seed => ?_, fun s e => ?_, fun seed text before behind hshows hbefore hbehind => ?_⟩
  · simp only [parse_eq_ok_iff, Text.stripped_iff, exists_eq_left']
  · simp only [parse_eq_error_iff, Text.stripped_iff, exists_and_left, exists_eq_left']
  · have hparse := hshows.parse hbefore hbehind
    refine ⟨hparse, fun V domain => ?_, fun σ o net fresh interrupts s => ?_⟩
    · rw [hparse]
      rfl
    · exact execute_of_parse hparse o net fresh interrupts s

/-- The number 255 between blanks of two kinds, in letters of two cases; and a mark without digits behind it. -/
theorem parse_spelled_padded :
    Shows ⟨255⟩ "0X00fF" ∧ parse "\t0X00fF\u3000" = .ok ⟨255⟩ ∧
      ¬ ∃ t n, Text.Stripped " 0x " t ∧ Spells t.toList n := by
  have hdigits : ['f', 'F'].map Char.toLower = Nat.toDigits 16 255 := rfl
  have hshows : Shows ⟨255⟩ "0X00fF" := .hex 2 (.inr (rfl : 'X' = 'X')) hdigits
  obtain ⟨-, herror, hshown⟩ := parse_spelled
  refine ⟨hshows, ?_, ?_⟩
  · exact (hshown ⟨255⟩ "0X00fF" "\t" "\u3000" hshows (by decide) (by decide)).1
  · exact ((herror " 0x " (.invalidSeed " 0x ")).mp rfl).2

end Readback.Seed
