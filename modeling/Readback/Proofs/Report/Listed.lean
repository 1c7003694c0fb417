import Mathlib.Data.List.Forall2
import Readback.Proofs.Run.Accounting
import Readback.Proofs.Text.Drawing
import Readback.Report.Listing

/-!
# What a listing lists

A listing shows the first twenty rounds that did not pass and counts the others. Read line by line, it is an overview,
a table if there is anything to list, and a line about what was left out of it; the characters of the frames tell them
apart, whatever the texts in the cells are.

- the lines of a listing are those of its parts (`lines_text`);
- every row says all about its round, and only rounds that did not pass have such a row (`rowShows_failureRow`);
- the line about the others stands in a listing exactly if there are any, with their number (`moreLine_mem_iff`);
- **`listing_complete`**: nothing is lost, in the listing of any result; and for the result of a run, what is listed and
  what is left out add up to the counters of the overview.
-/

namespace Readback.Listing

open Text

variable {σ V : Type}

/-! ## The lines of a listing -/

/-- The line about `k` rounds that are not listed. -/
def moreLine (k : Nat) : String := "... and " ++ Numeral.natText k ++ " more failing rounds (use --json for all)"

theorem natText_injective {m n : Nat} (h : Numeral.natText m = Numeral.natText n) : m = n := by
  have hdigits : Nat.toDigits 10 m = Nat.toDigits 10 n := String.ofList_inj.mp h
  rw [← Nat.ofDigitChars_ten_toDigits (n := m), hdigits, Nat.ofDigitChars_ten_toDigits]

theorem moreLine_inj {j k : Nat} : moreLine j = moreLine k ↔ j = k := by
  constructor
  · intro h
    apply natText_injective
    simpa [moreLine] using h
  · rintro rfl
    rfl

theorem mark_moreLine (k : Nat) : mark (moreLine k) = some '.' := by
  simp [mark, moreLine]

theorem oneLine_natText (n : Nat) : OneLine (Numeral.natText n) := by
  rw [OneLine, Numeral.natText, String.toList_ofList]
  intro h
  have hdigit := Nat.isDigit_of_mem_toDigits (by decide) (by decide) h
  cases hdigit

theorem oneLine_moreLine (k : Nat) : OneLine (moreLine k) := by
  rw [moreLine, oneLine_append, oneLine_append]
  exact ⟨⟨by decide, oneLine_natText k⟩, by decide⟩

theorem omitted_eq (n : Nat) : omitted n = if maxFailures < n then "\n" ++ moreLine (n - maxFailures) else "" := by
  rw [omitted]
  split
  · have hfirst : "\n... and " = "\n" ++ "... and " := rfl
    rw [hfirst]
    simp only [moreLine, String.append_assoc]
  · rfl

/-- The lines of a row of texts. -/
def drawTexts (widths : List Nat) (row : List String) : List String := drawRow widths (row.map (.ofText · .left))

theorem body_overview (r : RunResult V) (s : Summary) :
    (overview r s).body = (overviewRows r s).map fun row => drawTexts (overview r s).widths [row.1, row.2] := by
  rw [Grid.body, overview, List.map_map]
  rfl

theorem length_widths_overview (r : RunResult V) (s : Summary) : (overview r s).widths.length = 2 := by
  apply Grid.length_widths
  intro row hrow
  rcases List.mem_cons.mp hrow with rfl | hrow
  · rfl
  · obtain ⟨line, -, rfl⟩ := List.mem_map.mp hrow
    rfl

/-- How many of the rounds that a result kept did not pass. -/
def failing (r : RunResult V) : Nat := r.rounds.toList.countP (!·.isPass)

theorem failing_eq (r : RunResult V) : failing r = r.failures.length := List.countP_eq_length_filter

theorem tidy_overview (r : RunResult V) (s : Summary) : (overview r s).Tidy := by
  intro row hrow c hc
  rcases List.mem_cons.mp hrow with rfl | hrow
  · simp only [overview, List.mem_cons, List.not_mem_nil, or_false] at hc
    rcases hc with rfl | rfl <;> exact tidy_ofText _ _
  · obtain ⟨⟨name, value⟩, -, rfl⟩ := List.mem_map.mp hrow
    simp only [List.mem_cons, List.not_mem_nil, or_false] at hc
    rcases hc with rfl | rfl <;> exact tidy_ofText _ _

variable [Value V]

theorem tidy_failureGrid (failures : List (Round V)) : (failureGrid failures).Tidy := by
  intro row hrow c hc
  rcases List.mem_cons.mp hrow with rfl | hrow
  · simp only [failureGrid, List.mem_cons, List.not_mem_nil, or_false] at hc
    rcases hc with rfl | rfl | rfl | rfl <;> exact tidy_ofText _ _
  · obtain ⟨round, -, rfl⟩ := List.mem_map.mp hrow
    obtain ⟨text, -, rfl⟩ := List.mem_map.mp hc
    exact tidy_ofText _ _

/-- The lines about failing rounds: none if there are none. -/
def failureLines (failures : List (Round V)) : List String :=
  if failures = [] then []
  else (failureGrid failures).lines ++
    if maxFailures < failures.length then [moreLine (failures.length - maxFailures)] else []

theorem lines_failureSection (failures : List (Round V)) :
    lines (failureSection failures) = failureLines failures ++ [""] := by
  have hempty : lines "" = [""] := OneLine.lines_eq (by decide)
  rw [failureSection, failureLines]
  cases failures with
  | nil => exact hempty
  | cons round failures =>
    have hgrid := (tidy_failureGrid (round :: failures)).lines_draw
    rw [if_neg (by simp), if_neg (List.cons_ne_nil _ _), omitted_eq, ← String.append_empty (s := _ ++ "\n"),
      lines_append_newline, hempty]
    split
    · rw [← String.append_assoc, lines_append_newline, hgrid, (oneLine_moreLine _).lines_eq]
    · rw [String.append_empty, hgrid, List.append_nil]

/-- **The lines of a listing are those of its parts.** -/
theorem lines_text (r : RunResult V) (s : Summary) :
    lines (text r s) = (overview r s).lines ++ (failureLines r.failures ++ [""]) := by
  rw [text, lines_append_newline, (tidy_overview r s).lines_draw, lines_failureSection]

/-- A line that does not begin with a character of a frame is the line about the others, or the empty line at the
end. -/
theorem mem_lines_text_iff {r : RunResult V} {s : Summary} {line : String}
    (hmark : ∀ c ∈ ['┌', '│', '╞', '├', '└'], mark line ≠ some c) :
    line ∈ lines (text r s) ↔
      (maxFailures < r.failures.length ∧ line = moreLine (r.failures.length - maxFailures)) ∨ line = "" := by
  have hgrid (g : Grid) : line ∉ g.lines := by
    intro hline
    obtain ⟨c, hc, heq⟩ := g.mark_of_mem_lines hline
    exact hmark c hc heq
  rw [lines_text, List.mem_append, List.mem_append, List.mem_singleton, or_iff_right (hgrid _)]
  refine or_congr_left ?_
  rw [failureLines]
  split
  · next hnone => simp [hnone]
  · rw [List.mem_append, or_iff_right (hgrid _)]
    split
    · next hmany => simp [hmany]
    · next hfew => simp [hfew]

/-- **The line about the others** stands in a listing exactly if there are others, with their number. -/
theorem moreLine_mem_iff {r : RunResult V} {s : Summary} {k : Nat} :
    moreLine k ∈ lines (text r s) ↔ maxFailures < r.failures.length ∧ k = r.failures.length - maxFailures := by
  have hmark : ∀ c ∈ ['┌', '│', '╞', '├', '└'], mark (moreLine k) ≠ some c := by
    simp [mark_moreLine]
  have hne : moreLine k ≠ "" := by
    intro h
    have hhead := mark_moreLine k
    rw [h] at hhead
    cases hhead
  rw [mem_lines_text_iff hmark, or_iff_left hne, moreLine_inj]

/-! ## The rows of a listing -/

/-- The value read back as a listing shows it. -/
inductive ObservedShown : Option V → String → Prop
  | absent : ObservedShown none "-"
  | value (v : V) : ObservedShown (some v) (Value.text v)

/-- The outcome of a round that did not pass, as a listing shows it. -/
inductive OutcomeShown : Outcome → String → Prop
  | mismatch : OutcomeShown .mismatch "mismatch"
  | adapterError (stage : Stage) (cause : String) :
      OutcomeShown (.adapterError stage cause) (stage.text ++ " failed: " ++ cause)

/-- A row that says all about a round that did not pass: its index, what was written, what was read back, and how it
ended. -/
inductive RowShows (round : Round V) : List String → Prop
  | row {observed outcome : String} : ObservedShown round.observed observed → OutcomeShown round.outcome outcome →
      RowShows round [Numeral.natText round.index.toNat, Value.text round.input, observed, outcome]

/-- **The row of a round that did not pass says all about it.** -/
theorem rowShows_failureRow {round : Round V} (h : round.isPass = false) : RowShows round (failureRow round) := by
  refine .row ?_ ?_
  · cases round.observed with
    | none => exact .absent
    | some v => exact .value v
  · cases houtcome : round.outcome with
    | pass => simp [Round.isPass, houtcome, Outcome.isPass] at h
    | mismatch => exact .mismatch
    | adapterError stage cause => exact .adapterError stage cause

theorem body_failureGrid (failures : List (Round V)) :
    (failureGrid failures).body =
      ((failures.take maxFailures).map failureRow).map (drawTexts (failureGrid failures).widths) := by
  rw [Grid.body, failureGrid, List.map_map, List.map_map]
  rfl

theorem length_widths_failureGrid (failures : List (Round V)) : (failureGrid failures).widths.length = 4 := by
  apply Grid.length_widths
  intro row hrow
  rcases List.mem_cons.mp hrow with rfl | hrow
  · rfl
  · obtain ⟨round, -, rfl⟩ := List.mem_map.mp hrow
    rfl

theorem bodies_failureLines (failures : List (Round V)) :
    bodies (failureLines failures ++ [""]) = if failures = [] then [] else [(failureGrid failures).body] := by
  have hlast : bodies [""] = [] := rfl
  rw [failureLines]
  split
  · exact hlast
  · next hne =>
    have hrows : (failureGrid failures).rows ≠ [] := by
      simpa [failureGrid, maxFailures] using hne
    rw [List.append_assoc, Grid.bodies_lines_append hrows]
    split
    · rw [bodies_append, hlast]
      intro line hline
      rw [List.mem_singleton.mp hline, mark_moreLine]
      decide
    · rw [List.nil_append, hlast]

/-- **The tables of a listing, read from its lines**: the overview, and the failing rounds if there are any. -/
theorem bodies_text (r : RunResult V) (s : Summary) :
    bodies (lines (text r s)) =
      (overview r s).body :: if r.failures = [] then [] else [(failureGrid r.failures).body] := by
  have hrows : (overview r s).rows ≠ [] := List.cons_ne_nil _ _
  rw [lines_text, Grid.bodies_lines_append hrows, bodies_failureLines]

/-! ## Nothing is lost -/

/-- The lines of an output list these rounds of a result, in these rows of a table, and count the others. -/
structure Lists (r : RunResult V) (s : Summary) (output : List String) (shown : List (Round V))
    (rows : List (List String)) : Prop where
  /-- The rounds that are listed are the first of those that did not pass. -/
  first : shown <+: r.rounds.toList.filter (!·.isPass)
  length_rows : rows.length = min (failing r) 20
  not_pass : ∀ round ∈ shown, round.isPass = false
  rows_show : List.Forall₂ RowShows shown rows
  /-- The tables that a reader finds are the overview and, unless there is nothing to list, the table of these rows. -/
  tables : ∃ widths widths', widths.length = 2 ∧ widths'.length = 4 ∧ bodies output =
    (overviewRows r s).map (fun row => drawTexts widths [row.1, row.2]) ::
      if failing r = 0 then [] else [rows.map (drawTexts widths')]
  more_iff (k : Nat) : moreLine k ∈ output ↔ 20 < failing r ∧ k = failing r - 20
  total : rows.length + (failing r - 20) = failing r
  counters : ("Mismatched", Numeral.natText r.tally.mismatched.toNat) ∈ overviewRows r s ∧
    ("Adapter errors", Numeral.natText r.tally.adapterErrors.toNat) ∈ overviewRows r s

/-- **A listing lists what it does not count.** -/
theorem lists_text (r : RunResult V) (s : Summary) :
    Lists r s (lines (text r s)) (r.failures.take maxFailures) ((r.failures.take maxFailures).map failureRow) := by
  have hfailing := failing_eq r
  have hpass : ∀ round ∈ r.failures.take maxFailures, round.isPass = false := by
    intro round hround
    have hmem := (List.mem_filter.mp (List.mem_of_mem_take hround)).2
    simpa using hmem
  have hlength : ((r.failures.take maxFailures).map failureRow).length = min (failing r) 20 := by
    rw [List.length_map, List.length_take, hfailing, Nat.min_comm]
    rfl
  constructor
  · exact List.take_prefix _ _
  · exact hlength
  · exact hpass
  · rw [List.forall₂_map_right_iff, List.forall₂_same]
    intro round hround
    exact rowShows_failureRow (hpass round hround)
  · refine ⟨_, _, length_widths_overview r s, length_widths_failureGrid r.failures, ?_⟩
    rw [bodies_text, body_overview, body_failureGrid, hfailing]
    simp only [List.length_eq_zero_iff]
  · intro k
    rw [moreLine_mem_iff, hfailing]
    rfl
  · omega
  · simp [overviewRows, Event.counter]

/-- **Nothing is lost in a listing.** Of any result, a listing shows a table exactly if a kept round did not pass; its
rows are the first twenty such rounds in order, with all that is known of them; and the line about the others stands
there exactly if there are more, with the number that is missing. For every result of a run, what is listed and what is
left out add up to the mismatches and adapter errors in the overview. -/
theorem listing_complete :
    (∀ (r : RunResult V) (s : Summary), ∃ shown rows, Lists r s (lines (text r s)) shown rows ∧
      (2 ≤ (bodies (lines (text r s))).length ↔ 0 < failing r)) ∧
    ∀ (σ : Type) (e : Engine) (adapter : Adapter σ V) (state : σ) (signals : Signals) (r : RunResult V),
      ((∃ domain seed stop, (e.run domain seed stop adapter state signals).result = .ok r) ∨
        ∃ generator, (e.runWith generator adapter state signals).1.result = .ok r) →
      failing r = r.tally.mismatched.toNat + r.tally.adapterErrors.toNat := by
  constructor
  · intro r s
    have hlists := lists_text r s
    refine ⟨_, _, hlists, ?_⟩
    obtain ⟨widths, widths', -, -, htables⟩ := hlists.tables
    rw [htables]
    split
    · next hzero => simp [hzero]
    · next hne => simp [Nat.pos_of_ne_zero hne]
  · intro σ e adapter state signals r hrun
    obtain ⟨generator, stop, hdrive⟩ : ∃ generator stop,
        (e.drive stop adapter ⟨generator, state, signals, #[]⟩).1 = .ok r := by
      rcases hrun with ⟨domain, seed, stop, h⟩ | ⟨generator, h⟩
      · obtain ⟨generator, -, hdrive⟩ := Engine.run_ok h
        exact ⟨generator, stop, hdrive⟩
      · exact ⟨generator, none, h⟩
    have hbalanced := Engine.drive_balanced hdrive
    rw [failing_eq, hbalanced.length_failures, hbalanced.failed_eq]

/-- Forty-two rounds, of which every other one is a mismatch. -/
def crowded : RunResult Int64 where
  seed := ⟨1⟩
  domain := "[1, 6]"
  roundsRequested := 42
  roundsCompleted := 42
  retention := .all
  rounds := ((List.range 42).map fun i => if i % 2 = 0 then .mismatch (.ofNat i) 1 2 else .pass (.ofNat i) 1 1).toArray
  tally := ⟨21, 21, 0⟩

/-- One failing round more than is listed; and a run of three rounds, of which one is a mismatch and one an adapter
error. -/
theorem listing_complete_crowded :
    (failing crowded = 21 ∧ ∃ shown rows, Lists crowded (.ofResult crowded)
        (lines (text crowded (.ofResult crowded))) shown rows ∧ rows.length = 20 ∧
      moreLine 1 ∈ lines (text crowded (.ofResult crowded))) ∧
    ∃ r : RunResult Int64, ((Engine.mk ⟨3, false, .failuresOnly⟩).run Engine.sevens ⟨1⟩ none (memoryCell Int64).faulty
        Engine.mixedBench.adapter .none).result = .ok r ∧ r.tally = ⟨1, 1, 1⟩ ∧ failing r = 2 := by
  obtain ⟨hany, hruns⟩ := listing_complete (V := Int64)
  have hfailing : failing crowded = 21 := by decide
  obtain ⟨shown, rows, hlists, -⟩ := hany crowded (.ofResult crowded)
  refine ⟨⟨hfailing, shown, rows, hlists, ?_, (hlists.more_iff 1).mpr ?_⟩, ?_⟩
  · rw [hlists.length_rows, hfailing]
    rfl
  · rw [hfailing]
    decide
  · obtain ⟨r, hrun, htally⟩ : ∃ r : RunResult Int64, ((Engine.mk ⟨3, false, .failuresOnly⟩).run Engine.sevens ⟨1⟩ none
        (memoryCell Int64).faulty Engine.mixedBench.adapter .none).result = .ok r ∧ r.tally = ⟨1, 1, 1⟩ :=
      ⟨_, rfl, rfl⟩
    have htotal := hruns _ _ _ _ _ r (.inl ⟨_, _, _, hrun⟩)
    rw [htally] at htotal
    exact ⟨r, hrun, htally, htotal⟩

end Readback.Listing
