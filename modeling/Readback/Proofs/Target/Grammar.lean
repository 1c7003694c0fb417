import Readback.Proofs.Text.Trimming
import Readback.Target.Basic

/-!
# The texts that are targets

Reading a target takes off the blanks at both ends first and the slashes at the end last, and looks at the scheme in
between.

- what is read depends on the text without its blanks alone (`parse_eq`), and slashes at its end make no difference to a
  base (`base_eq_iff`);
- **`parse_targets`**: which texts are the memory cell, which are a server and of what base, and which are refused.

A base need not be a target itself. Slashes can be taken off that belong to the scheme, and blanks can come to stand at
the end when the slashes behind them are gone.

- a base has lost the slashes of its scheme or keeps its scheme (`base_cases`);
- **`parse_base`**: it is read back as it is unless one of the two has happened, and `base_not_read_back` has a case of
  each.
-/

namespace Readback.Target

open Text (Blank Stripped)

variable {s t b : String}

/-! ## Parts of a target -/

/-- A text that starts like the address of a server. -/
def HasScheme (t : String) : Prop := ∃ rest, t = "http://" ++ rest ∨ t = "https://" ++ rest

/-- As many slashes. -/
def slashes (k : Nat) : String := .ofList (List.replicate k '/')

theorem slashes_add (j k : Nat) : slashes j ++ slashes k = slashes (j + k) := by
  rw [← String.toList_inj]
  simp [slashes]

theorem isHttp_iff : isHttp t.toList = true ↔ HasScheme t := by
  rw [isHttp, Bool.or_eq_true, List.isPrefixOf_iff_prefix, List.isPrefixOf_iff_prefix]
  constructor
  · rintro (⟨rest, hrest⟩ | ⟨rest, hrest⟩)
    · refine ⟨.ofList rest, .inl ?_⟩
      rw [← String.toList_inj, ← hrest]
      simp
    · refine ⟨.ofList rest, .inr ?_⟩
      rw [← String.toList_inj, ← hrest]
      simp
  · rintro ⟨rest, rfl | rfl⟩
    · exact .inl ⟨rest.toList, String.toList_append.symm⟩
    · exact .inr ⟨rest.toList, String.toList_append.symm⟩

/-- The text up to the slashes at its end. -/
def base (t : String) : String := .ofList (dropSlashes t.toList)

theorem base_eq_iff : base t = b ↔ (∃ k, t = b ++ slashes k) ∧ b.toList.getLast? ≠ some '/' := by
  rw [base, ← String.toList_inj, String.toList_ofList, dropSlashes, Text.dropEndWhile_eq_iff]
  constructor
  · rintro ⟨behind, ht, hbehind, hlast⟩
    constructor
    · refine ⟨behind.length, ?_⟩
      have hslashes : behind = List.replicate behind.length '/' :=
        List.eq_replicate_iff.mpr ⟨rfl, fun c hc => of_decide_eq_true (hbehind c hc)⟩
      rw [← String.toList_inj, ht, String.toList_append, slashes, String.toList_ofList, ← hslashes]
    · intro hslash
      cases hlast '/' hslash
  · rintro ⟨⟨k, rfl⟩, hlast⟩
    refine ⟨List.replicate k '/', ?_, ?_, ?_⟩
    · rw [String.toList_append, slashes, String.toList_ofList]
    · intro c hc
      simp [List.eq_of_mem_replicate hc]
    · intro c hc
      rw [decide_eq_false_iff_not]
      rintro rfl
      exact hlast hc

theorem base_append_slashes (t : String) (k : Nat) : base (t ++ slashes k) = base t := by
  obtain ⟨⟨j, ht⟩, hlast⟩ := base_eq_iff.mp (rfl : base t = base t)
  rw [base_eq_iff]
  refine ⟨⟨j + k, ?_⟩, hlast⟩
  conv_lhs => rw [ht]
  rw [String.append_assoc, slashes_add]

/-! ## Reading -/

/-- What is read depends on the text without its blanks. -/
theorem parse_eq (s : String) :
    parse s = if Text.trim s = "memory" then .ok .memory
      else if isHttp (Text.trim s).toList then .ok (.http (base (Text.trim s)))
      else .error (unknown (Text.trim s)) := by
  have hchars : (Text.trim s).toList = Text.trimChars s.toList := String.toList_ofList
  simp only [parse, base, hchars]
  by_cases hmemory : Text.trim s = "memory"
  · have hlist : Text.trimChars s.toList = "memory".toList := by rw [← hchars, hmemory]
    rw [if_pos hmemory, if_pos hlist]
  · have hlist : Text.trimChars s.toList ≠ "memory".toList := by rwa [← hchars, ne_eq, String.toList_inj]
    rw [if_neg hmemory, if_neg hlist]
    rfl

theorem parse_congr (h : Text.trim s = Text.trim t) : parse s = parse t := by
  rw [parse_eq, parse_eq, h]

theorem HasScheme.ne_memory (h : HasScheme t) : t ≠ "memory" := by
  rintro rfl
  rw [← isHttp_iff] at h
  cases h

theorem parse_of_hasScheme (h : HasScheme (Text.trim s)) : parse s = .ok (.http (base (Text.trim s))) := by
  rw [parse_eq, if_neg h.ne_memory, if_pos (isHttp_iff.mpr h)]

theorem parse_eq_memory_iff : parse s = .ok .memory ↔ Text.trim s = "memory" := by
  rw [parse_eq]
  split_ifs with hmemory hhttp
  · exact ⟨fun _ => hmemory, fun _ => rfl⟩
  · exact ⟨nofun, fun h => absurd h hmemory⟩
  · exact ⟨nofun, fun h => absurd h hmemory⟩

theorem parse_eq_http_iff : parse s = .ok (.http b) ↔ HasScheme (Text.trim s) ∧ base (Text.trim s) = b := by
  constructor
  · intro h
    rw [parse_eq] at h
    split_ifs at h with hmemory hhttp
    · cases h
    · exact ⟨isHttp_iff.mp hhttp, Target.http.inj (Except.ok.inj h)⟩
  · rintro ⟨hscheme, rfl⟩
    exact parse_of_hasScheme hscheme

theorem parse_eq_error_iff {e : String} :
    parse s = .error e ↔ (Text.trim s ≠ "memory" ∧ ¬ HasScheme (Text.trim s)) ∧ e = unknown (Text.trim s) := by
  rw [parse_eq, ← isHttp_iff]
  split_ifs with hmemory hhttp
  · exact ⟨nofun, fun h => absurd hmemory h.1.1⟩
  · exact ⟨nofun, fun h => absurd hhttp h.1.2⟩
  · exact ⟨fun h => ⟨⟨hmemory, hhttp⟩, (Except.error.inj h).symm⟩, fun h => congrArg _ h.2.symm⟩

theorem HasScheme.append (h : HasScheme t) (u : String) : HasScheme (t ++ u) := by
  obtain ⟨rest, rfl | rfl⟩ := h
  · exact ⟨rest ++ u, .inl String.append_assoc⟩
  · exact ⟨rest ++ u, .inr String.append_assoc⟩

theorem not_hasScheme_memory (u : String) : ¬ HasScheme ("memory" ++ u) := by
  rintro ⟨rest, h | h⟩
  · simpa using congrArg String.toList h
  · simpa using congrArg String.toList h

/-- **Which texts are targets.** Let `t` be the text without the blanks at its ends. It is the memory cell if it says
so, and a server if it starts like an address; the base is then `t` up to the slashes at its end. All else is refused,
and `t` is quoted. So blanks around a text make no difference, nor do slashes at the end of a target. -/
theorem parse_targets (s : String) :
    (∃! t, Stripped s t) ∧ ∀ t, Stripped s t →
      (parse s = .ok .memory ↔ t = "memory") ∧
      (∀ b, parse s = .ok (.http b) ↔ HasScheme t ∧ (∃ k, t = b ++ slashes k) ∧ b.toList.getLast? ≠ some '/') ∧
      (∀ e, parse s = .error e ↔ (t ≠ "memory" ∧ ¬ HasScheme t) ∧
        e = "Unknown target '" ++ t ++ "': expected 'memory' or an http(s):// base URL") ∧
      (∀ before behind, Blank before → Blank behind → parse (before ++ s ++ behind) = parse s) ∧
      ∀ s' t' target target' j k, Stripped s' t' → parse s = .ok target → parse s' = .ok target' →
        t ++ slashes j = t' ++ slashes k → target = target' := by
  refine ⟨⟨Text.trim s, Text.stripped_trim s, fun t ht => (Text.stripped_iff.mp ht).symm⟩, fun t ht => ?_⟩
  obtain rfl := Text.stripped_iff.mp ht
  refine ⟨parse_eq_memory_iff, fun b => ?_, fun e => parse_eq_error_iff, fun before behind hbefore hbehind => ?_, ?_⟩
  · rw [parse_eq_http_iff, base_eq_iff]
  · exact parse_congr (Text.trim_append_append hbefore hbehind)
  intro s' t' target target' j k ht' h h' hslashes
  obtain rfl := Text.stripped_iff.mp ht'
  cases target with
  | memory =>
    cases target' with
    | memory => rfl
    | http b' =>
      have hscheme := (parse_eq_http_iff.mp h').1.append (slashes k)
      rw [← hslashes, parse_eq_memory_iff.mp h] at hscheme
      exact absurd hscheme (not_hasScheme_memory _)
  | http b =>
    cases target' with
    | memory =>
      have hscheme := (parse_eq_http_iff.mp h).1.append (slashes j)
      rw [hslashes, parse_eq_memory_iff.mp h'] at hscheme
      exact absurd hscheme (not_hasScheme_memory _)
    | http b' =>
      rw [← (parse_eq_http_iff.mp h).2, ← (parse_eq_http_iff.mp h').2, ← base_append_slashes _ j, hslashes,
        base_append_slashes]

/-- The same server between blanks and without them, with two slashes behind its address and with none. -/
theorem parse_targets_slashes :
    Stripped " http://a:1// " "http://a:1//" ∧ parse " http://a:1// " = .ok (.http "http://a:1") ∧
      ∀ target, parse "http://a:1" = .ok target → target = .http "http://a:1" := by
  have hstripped : Stripped " http://a:1// " "http://a:1//" :=
    ⟨" ", " ", by decide, by decide, by decide, by simp [Text.isBlank]⟩
  have hstripped' : Stripped "http://a:1" "http://a:1" :=
    ⟨"", "", by decide, by decide, by decide, by simp [Text.isBlank]⟩
  obtain ⟨-, hhttp, -, -, hsame⟩ := (parse_targets " http://a:1// ").2 _ hstripped
  have hparse : parse " http://a:1// " = .ok (.http "http://a:1") :=
    (hhttp _).mpr ⟨⟨"a:1//", .inl rfl⟩, ⟨2, rfl⟩, by decide⟩
  refine ⟨hstripped, hparse, fun target htarget => ?_⟩
  exact (hsame _ _ _ _ 0 2 hstripped' hparse htarget rfl).symm

/-! ## Reading a base -/

/-- Slashes that are followed by something are kept, all of them. -/
theorem dropSlashes_slashes (rest : List Char) :
    dropSlashes ('/' :: '/' :: rest) = [] ∨ ∃ rest', dropSlashes ('/' :: '/' :: rest) = '/' :: '/' :: rest' := by
  generalize hb : dropSlashes ('/' :: '/' :: rest) = b
  obtain ⟨behind, hsplit, -, hlast⟩ := Text.dropEndWhile_eq_iff.mp hb
  rcases b with _ | ⟨c, _ | ⟨c', rest'⟩⟩
  · exact .inl rfl
  · -- A slash alone would itself be dropped.
    rw [List.singleton_append] at hsplit
    rw [← (List.cons.inj hsplit).1] at hlast
    cases hlast '/' rfl
  · rw [List.cons_append, List.cons_append] at hsplit
    injection hsplit with hc hsplit
    injection hsplit with hc' hsplit
    exact .inr ⟨rest', by rw [← hc, ← hc']⟩

theorem base_scheme (scheme rest : String) (hlast : ∀ c ∈ scheme.toList.getLast?, decide (c = '/') = false) :
    base (scheme ++ "//" ++ rest) = scheme ∨ ∃ rest', base (scheme ++ "//" ++ rest) = scheme ++ "//" ++ rest' := by
  have hchars : (scheme ++ "//" ++ rest).toList = scheme.toList ++ '/' :: '/' :: rest.toList := by simp
  have hdrop : dropSlashes (scheme ++ "//" ++ rest).toList =
      scheme.toList ++ dropSlashes ('/' :: '/' :: rest.toList) := by
    rw [hchars]
    exact Text.dropEndWhile_append hlast
  rw [base, hdrop]
  rcases dropSlashes_slashes rest.toList with hnil | ⟨rest', hrest⟩
  · left
    rw [hnil]
    simp
  · right
    refine ⟨.ofList rest', ?_⟩
    rw [hrest, ← String.toList_inj]
    simp

/-- **A base has lost the slashes of its scheme, or keeps its scheme.** -/
theorem base_cases (h : HasScheme t) : base t = "http:" ∨ base t = "https:" ∨ HasScheme (base t) := by
  obtain ⟨rest, rfl | rfl⟩ := h
  · rcases base_scheme "http:" rest (by simp) with hbare | ⟨rest', hrest⟩
    · exact .inl hbare
    · exact .inr (.inr ⟨rest', .inl hrest⟩)
  · rcases base_scheme "https:" rest (by simp) with hbare | ⟨rest', hrest⟩
    · exact .inr (.inl hbare)
    · exact .inr (.inr ⟨rest', .inr hrest⟩)

theorem HasScheme.head (h : HasScheme t) : ∀ c ∈ t.toList.head?, Text.isBlank c = false := by
  intro c hc
  obtain ⟨rest, rfl | rfl⟩ := h
  · obtain rfl : 'h' = c := by simpa using hc
    rfl
  · obtain rfl : 'h' = c := by simpa using hc
    rfl

/-- Trimming does not reach into the scheme. -/
theorem HasScheme.trim (h : HasScheme t) : HasScheme (Text.trim t) := by
  have hkept {scheme : String} (rest : String) (hne : scheme.toList ≠ [])
      (hhead : ∀ c ∈ scheme.toList.head?, Text.isBlank c = false)
      (hlast : ∀ c ∈ scheme.toList.getLast?, Text.isBlank c = false) :
      Text.trim (scheme ++ rest) = scheme ++ .ofList (Text.dropEndWhile Text.isBlank rest.toList) := by
    rw [Text.trim, String.toList_append, Text.trimChars_append hne hhead hlast, ← String.toList_inj]
    simp
  obtain ⟨rest, rfl | rfl⟩ := h
  · exact ⟨_, .inl (hkept rest (by decide) (by simp [Text.isBlank]) (by simp [Text.isBlank]))⟩
  · exact ⟨_, .inr (hkept rest (by decide) (by simp [Text.isBlank]) (by simp [Text.isBlank]))⟩

theorem length_base_le (t : String) : (base t).length ≤ t.length := by
  obtain ⟨⟨k, ht⟩, -⟩ := base_eq_iff.mp (rfl : base t = base t)
  have hlength := congrArg String.length ht
  rw [String.length_append] at hlength
  omega

theorem parse_bare (h : b = "http:" ∨ b = "https:") : parse b = .error (unknown b) := by
  rcases h with rfl | rfl <;> rfl

theorem HasScheme.parse_self (h : HasScheme b) (hblank : ∀ c ∈ b.toList.getLast?, Text.isBlank c = false)
    (hslash : b.toList.getLast? ≠ some '/') : parse b = .ok (.http b) := by
  have htrim : Text.trim b = b := Text.trim_eq_self h.head hblank
  have hself : base b = b := base_eq_iff.mpr ⟨⟨0, String.append_empty.symm⟩, hslash⟩
  rw [parse_of_hasScheme h.trim, htrim, hself]

theorem HasScheme.parse_shorter (h : HasScheme b) {c : Char} (hc : c ∈ b.toList.getLast?)
    (hblank : Text.isBlank c = true) : ∃ b', parse b = .ok (.http b') ∧ b'.length < b.length := by
  refine ⟨_, parse_of_hasScheme h.trim, ?_⟩
  calc (base (Text.trim b)).length ≤ (Text.trim b).length := length_base_le _
    _ < b.length := Text.length_trim_lt hc hblank

/-- **How a base is read.** A base that keeps its scheme and does not end in a blank is read back as it is. One that has
lost the slashes of its scheme is refused, and one that ends in a blank is read as a shorter base. -/
theorem parse_base (h : parse s = .ok (.http b)) :
    (parse b = .ok (.http b) ↔ HasScheme b ∧ ∀ c ∈ b.toList.getLast?, Text.isBlank c = false) ∧
    (¬ HasScheme b → (b = "http:" ∨ b = "https:") ∧ parse b = .error (unknown b)) ∧
    (HasScheme b → (∃ c ∈ b.toList.getLast?, Text.isBlank c = true) →
      ∃ b', parse b = .ok (.http b') ∧ b'.length < b.length) := by
  obtain ⟨hscheme, hbase⟩ := parse_eq_http_iff.mp h
  have hslash : b.toList.getLast? ≠ some '/' := (base_eq_iff.mp hbase).2
  have hcases : (b = "http:" ∨ b = "https:") ∨ HasScheme b := by
    rw [← hbase, or_assoc]
    exact base_cases hscheme
  refine ⟨⟨fun hback => ?_, ?_⟩, fun hnot => ?_, ?_⟩
  · have hkept : HasScheme b := by
      rcases hcases with hbare | hkept
      · cases hback.symm.trans (parse_bare hbare)
      · exact hkept
    refine ⟨hkept, fun c hc => ?_⟩
    by_contra hblank
    obtain ⟨b', hb', hlt⟩ := hkept.parse_shorter hc (by simpa using hblank)
    obtain rfl := Target.http.inj (Except.ok.inj (hback.symm.trans hb'))
    exact Nat.lt_irrefl _ hlt
  · rintro ⟨hkept, hblank⟩
    exact hkept.parse_self hblank hslash
  · have hbare := hcases.resolve_right hnot
    exact ⟨hbare, parse_bare hbare⟩
  · rintro hkept ⟨c, hc, hblank⟩
    exact hkept.parse_shorter hc hblank

/-- The base of a well-formed address is read back. -/
theorem parse_base_port :
    parse " https://b.example:8080/x// " = .ok (.http "https://b.example:8080/x") ∧
      parse "https://b.example:8080/x" = .ok (.http "https://b.example:8080/x") := by
  have hparse : parse " https://b.example:8080/x// " = .ok (.http "https://b.example:8080/x") := rfl
  exact ⟨hparse, (parse_base hparse).1.mpr ⟨⟨"b.example:8080/x", .inr rfl⟩, by simp [Text.isBlank]⟩⟩

/-- A scheme that nothing follows loses its slashes, and a blank that only slashes follow comes to stand at the end:
neither base is read back as it is. -/
theorem base_not_read_back :
    (parse "http://" = .ok (.http "http:") ∧ parse "http:" = .error (unknown "http:")) ∧
      parse "http://a /" = .ok (.http "http://a ") ∧ parse "http://a " = .ok (.http "http://a") :=
  ⟨⟨rfl, rfl⟩, rfl, rfl⟩

end Readback.Target
