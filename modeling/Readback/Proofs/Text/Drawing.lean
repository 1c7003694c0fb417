import Readback.Text.Grid

/-!
# Reading drawn grids

What a grid holds is written with padding, next to other grids and to plain lines. A reader who goes by the first
character of each line still finds the grids and their rows: `bodies` takes what follows the line below a header, up to
the lower edge, and divides it at the dashed lines.

- a text is the lines that it was put together from, unless one of them holds a line feed (`lines_intercalate`,
  `lines_append_newline`), and no line of a cell does (`tidy_ofText`);
- every line of a drawn grid begins with a character of its frame (`Grid.mark_of_mem_lines`);
- so the rows of a grid are read back from the lines of a text in which it stands (`Grid.bodies_lines_append`).
-/

namespace Readback.Text

/-! ## Lines -/

/-- A text that is one line. -/
def OneLine (text : String) : Prop := '\n' ∉ text.toList

instance (text : String) : Decidable (OneLine text) := inferInstanceAs (Decidable (_ ∉ _))

@[simp] theorem oneLine_append {s t : String} : OneLine (s ++ t) ↔ OneLine s ∧ OneLine t := by
  simp [OneLine]

theorem OneLine.lines_eq {text : String} (h : OneLine text) : lines text = [text] := by
  rw [lines, List.splitOn_eq_singleton h, List.map_singleton, String.ofList_toList]

/-- A line feed divides the lines before it from those after it. -/
theorem lines_append_newline (s t : String) : lines (s ++ "\n" ++ t) = lines s ++ lines t := by
  have hlist : (s ++ "\n" ++ t).toList = s.toList ++ '\n' :: t.toList := by simp
  rw [lines, hlist, List.splitOn_append_cons_self, List.map_append]
  rfl

/-- **A text is the lines that it was put together from.** -/
theorem lines_intercalate {ls : List String} (hne : ls ≠ []) (h : ∀ l ∈ ls, OneLine l) :
    lines ("\n".intercalate ls) = ls := by
  have hfree : ∀ l ∈ ls.map String.toList, '\n' ∉ l := by
    intro l hl
    obtain ⟨line, hline, rfl⟩ := List.mem_map.mp hl
    exact h line hline
  have hlist : ("\n".intercalate ls).toList = ['\n'].intercalate (ls.map String.toList) := String.toList_intercalate
  rw [lines, hlist, List.splitOn_intercalate '\n' hfree (by simpa using hne), List.map_map]
  have hid : String.ofList ∘ String.toList = id := funext fun s => String.ofList_toList
  rw [hid, List.map_id]

/-- No part of what is divided at a character holds that character. -/
theorem not_mem_of_mem_splitOn {c : Char} {cs part : List Char} (h : part ∈ cs.splitOn c) : c ∉ part := by
  induction cs generalizing part with
  | nil =>
    rw [List.splitOn_nil, List.mem_singleton] at h
    simp [h]
  | cons d cs ih =>
    rw [List.splitOn_cons_eq_if_modifyHead] at h
    obtain ⟨first, others, hparts⟩ := List.exists_cons_of_ne_nil (List.splitOn_ne_nil c cs)
    rw [hparts] at h ih
    split at h
    · rcases List.mem_cons.mp h with rfl | h
      · simp
      · exact ih h
    · next hd =>
      rw [List.modifyHead_cons] at h
      rcases List.mem_cons.mp h with rfl | h
      · have hfirst := ih (List.mem_cons_self ..)
        simp only [List.mem_cons, not_or]
        exact ⟨fun heq => hd (by simp [heq]), hfirst⟩
      · exact ih (List.mem_cons_of_mem _ h)

theorem oneLine_of_mem_lines {text line : String} (h : line ∈ lines text) : OneLine line := by
  obtain ⟨part, hpart, rfl⟩ := List.mem_map.mp h
  rw [OneLine, String.toList_ofList]
  exact not_mem_of_mem_splitOn hpart

/-- What is put together from parts comes from the parts or from between them. -/
theorem mem_of_mem_intercalate {α : Type} {sep : List α} {parts : List (List α)} {a : α}
    (h : a ∈ sep.intercalate parts) : a ∈ sep ∨ ∃ part ∈ parts, a ∈ part := by
  induction parts with
  | nil => simp at h
  | cons part parts ih =>
    cases parts with
    | nil =>
      rw [List.intercalate_singleton] at h
      exact .inr ⟨part, List.mem_cons_self .., h⟩
    | cons next others =>
      rw [List.intercalate_cons_cons, List.mem_append, List.mem_append] at h
      rcases h with (h | h) | h
      · exact .inr ⟨part, List.mem_cons_self .., h⟩
      · exact .inl h
      · rcases ih h with hsep | ⟨part', hpart', ha⟩
        · exact .inl hsep
        · exact .inr ⟨part', List.mem_cons_of_mem _ hpart', ha⟩

theorem oneLine_intercalate {sep : String} {ls : List String} (hsep : OneLine sep) (h : ∀ l ∈ ls, OneLine l) :
    OneLine (sep.intercalate ls) := by
  intro hmem
  rw [String.toList_intercalate] at hmem
  rcases mem_of_mem_intercalate hmem with hin | ⟨part, hpart, hin⟩
  · exact hsep hin
  · obtain ⟨l, hl, rfl⟩ := List.mem_map.mp hpart
    exact h l hl hin

theorem toList_pushn (s : String) (c : Char) (n : Nat) : (s.pushn c n).toList = s.toList ++ List.replicate n c := by
  rw [String.pushn_eq_repeat_push]
  induction n with
  | zero => simp [Nat.repeat]
  | succ n ih => rw [Nat.repeat, String.toList_push, ih, List.append_assoc, List.replicate_succ']

theorem oneLine_pushn {c : Char} (hc : c ≠ '\n') (n : Nat) : OneLine ("".pushn c n) := by
  rw [OneLine, toList_pushn]
  simp only [String.toList_empty, List.nil_append, List.mem_replicate, not_and]
  exact fun _ heq => hc heq.symm

/-! ## The lines of a grid -/

/-- A cell whose lines are lines. -/
def Cell.Tidy (c : Cell) : Prop := ∀ l ∈ c.lines, OneLine l

theorem tidy_ofText (text : String) (align : Align) : (Cell.ofText text align).Tidy :=
  fun _ hl => oneLine_of_mem_lines hl

/-- A grid whose cells are tidy. -/
def Grid.Tidy (g : Grid) : Prop := ∀ row ∈ g.header :: g.rows, ∀ c ∈ row, c.Tidy

/-- A rule is drawn without a line feed. -/
def Rule.Tidy (r : Rule) : Prop := '\n' ∉ [r.left, r.stroke, r.cross, r.right]

instance (r : Rule) : Decidable r.Tidy := inferInstanceAs (Decidable (_ ∉ _))

theorem Rule.Tidy.oneLine_draw {r : Rule} (h : r.Tidy) (widths : List Nat) : OneLine (r.draw widths) := by
  simp only [Rule.Tidy, List.mem_cons, List.not_mem_nil, or_false, not_or] at h
  obtain ⟨hleft, hstroke, hcross, hright⟩ := h
  have hsep : OneLine r.cross.toString := by simpa [OneLine] using hcross
  have hstrokes : ∀ l ∈ widths.map (fun w => "".pushn r.stroke (w + 2)), OneLine l := by
    intro l hl
    obtain ⟨w, -, rfl⟩ := List.mem_map.mp hl
    exact oneLine_pushn (fun heq => hstroke heq.symm) _
  rw [Rule.draw, oneLine_append, oneLine_append]
  refine ⟨⟨?_, oneLine_intercalate hsep hstrokes⟩, ?_⟩
  · simpa [OneLine] using hleft
  · simpa [OneLine] using hright

theorem oneLine_pad (columns : Nat) (align : Align) {s : String} (h : OneLine s) : OneLine (pad columns align s) := by
  have hblanks := oneLine_pushn (c := ' ') (by decide) (columns - Text.width s)
  cases align with
  | left => exact oneLine_append.mpr ⟨h, hblanks⟩
  | right => exact oneLine_append.mpr ⟨hblanks, h⟩

theorem Cell.Tidy.oneLine_getD {c : Cell} (h : c.Tidy) (i : Nat) : OneLine (c.lines.getD i "") := by
  rw [List.getD_eq_getElem?_getD]
  cases hl : c.lines[i]? with
  | none => simp [OneLine]
  | some l => exact h l (List.mem_of_getElem? hl)

theorem oneLine_drawLine (widths : List Nat) {row : List Cell} (h : ∀ c ∈ row, c.Tidy) (i : Nat) :
    OneLine (drawLine widths row i) := by
  have hcells : ∀ l ∈ List.zipWith (fun w c => pad w c.align (c.lines.getD i "")) widths row, OneLine l := by
    intro l hl
    obtain ⟨k, hk, rfl⟩ := List.mem_iff_getElem.mp hl
    rw [List.getElem_zipWith]
    exact oneLine_pad _ _ ((h _ (List.getElem_mem _)).oneLine_getD i)
  rw [drawLine, oneLine_append, oneLine_append]
  exact ⟨⟨by decide, oneLine_intercalate (by decide) hcells⟩, by decide⟩

/-- The character that a line begins with. -/
def mark (line : String) : Option Char := line.toList.head?

theorem Rule.mark_draw (r : Rule) (widths : List Nat) : mark (r.draw widths) = some r.left := by
  simp [mark, Rule.draw]

theorem mark_drawLine (widths : List Nat) (row : List Cell) (i : Nat) : mark (drawLine widths row i) = some '│' := by
  simp [mark, drawLine]

theorem mark_of_mem_drawRow {widths : List Nat} {row : List Cell} {line : String} (h : line ∈ drawRow widths row) :
    mark line = some '│' := by
  obtain ⟨i, -, rfl⟩ := List.mem_map.mp h
  exact mark_drawLine widths row i

namespace Grid

variable (g : Grid)

/-- The widths of a grid's columns. -/
def widths : List Nat := columnWidths (g.header :: g.rows)

/-- A column for each cell, if all rows have as many cells. -/
theorem length_widths {n : Nat} (h : ∀ row ∈ g.header :: g.rows, row.length = n) : g.widths.length = n := by
  have hcolumns (rows : List (List Cell)) (hne : rows ≠ []) (hrows : ∀ row ∈ rows, row.length = n) :
      (columnWidths rows).length = n := by
    induction rows with
    | nil => exact absurd rfl hne
    | cons row rest ih =>
      have hrow := hrows row (List.mem_cons_self ..)
      cases rest with
      | nil => simpa [columnWidths] using hrow
      | cons next others =>
        have hrest := ih (List.cons_ne_nil _ _) fun row hmem => hrows row (List.mem_cons_of_mem _ hmem)
        simp [columnWidths, hrow, hrest]
  exact hcolumns _ (List.cons_ne_nil _ _) h

/-- The rows as they are drawn: each by its lines. -/
def body : List (List String) := g.rows.map (drawRow g.widths)

/-- The lines down to the one below the header, the rows with dashed lines between them, and the lower edge. -/
theorem lines_eq :
    g.lines = (Rule.top.draw g.widths :: drawRow g.widths g.header) ++ Rule.header.draw g.widths ::
      ([Rule.between.draw g.widths].intercalate g.body ++ [Rule.bottom.draw g.widths]) := by
  simp [lines, widths, body]

theorem mark_of_mem_body {line : String} (h : line ∈ [Rule.between.draw g.widths].intercalate g.body) :
    mark line = some '├' ∨ mark line = some '│' := by
  rcases mem_of_mem_intercalate h with hrule | ⟨row, hrow, hline⟩
  · rw [List.mem_singleton.mp hrule]
    exact .inl (Rule.mark_draw _ _)
  · obtain ⟨cells, -, rfl⟩ := List.mem_map.mp hrow
    exact .inr (mark_of_mem_drawRow hline)

/-- **Every line of a drawn grid begins with a character of its frame.** -/
theorem mark_of_mem_lines {line : String} (h : line ∈ g.lines) :
    ∃ c ∈ ['┌', '│', '╞', '├', '└'], mark line = some c := by
  rw [lines_eq] at h
  simp only [List.mem_append, List.mem_cons, List.not_mem_nil, or_false] at h
  rcases h with (rfl | h) | rfl | h | rfl
  · exact ⟨'┌', by decide, Rule.mark_draw _ _⟩
  · exact ⟨'│', by decide, mark_of_mem_drawRow h⟩
  · exact ⟨'╞', by decide, Rule.mark_draw _ _⟩
  · rcases g.mark_of_mem_body h with hmark | hmark
    · exact ⟨'├', by decide, hmark⟩
    · exact ⟨'│', by decide, hmark⟩
  · exact ⟨'└', by decide, Rule.mark_draw _ _⟩

variable {g}

theorem Tidy.oneLine_drawRow (h : g.Tidy) {row : List Cell} (hrow : row ∈ g.header :: g.rows) {line : String}
    (hline : line ∈ drawRow g.widths row) : OneLine line := by
  obtain ⟨i, -, rfl⟩ := List.mem_map.mp hline
  exact oneLine_drawLine g.widths (h row hrow) i

theorem Tidy.oneLine (h : g.Tidy) {line : String} (hline : line ∈ g.lines) : OneLine line := by
  rw [lines_eq] at hline
  simp only [List.mem_append, List.mem_cons, List.not_mem_nil, or_false] at hline
  rcases hline with (rfl | hline) | rfl | hline | rfl
  · exact Rule.Tidy.oneLine_draw (by decide) _
  · exact h.oneLine_drawRow (List.mem_cons_self ..) hline
  · exact Rule.Tidy.oneLine_draw (by decide) _
  · rcases mem_of_mem_intercalate hline with hrule | ⟨row, hrow, hline⟩
    · rw [List.mem_singleton.mp hrule]
      exact Rule.Tidy.oneLine_draw (by decide) _
    · obtain ⟨cells, hcells, rfl⟩ := List.mem_map.mp hrow
      exact h.oneLine_drawRow (List.mem_cons_of_mem _ hcells) hline
  · exact Rule.Tidy.oneLine_draw (by decide) _

/-- **The lines of the drawn text are those of the grid.** -/
theorem Tidy.lines_draw (h : g.Tidy) : Text.lines g.draw = g.lines :=
  lines_intercalate (by simp [lines]) fun _ hline => h.oneLine hline

end Grid

/-! ## Reading -/

/-- The rows of the grids among some lines. What follows a line below a header, up to a lower edge, is the body of a
grid, and dashed lines keep its rows apart. -/
def bodies : List String → List (List (List String))
  | [] => []
  | line :: rest =>
    if mark line = some '╞' then (rest.takeWhile (mark · ≠ some '└')).splitOnP (mark · = some '├') :: bodies rest
    else bodies rest

theorem bodies_append {before : List String} (h : ∀ line ∈ before, mark line ≠ some '╞') (rest : List String) :
    bodies (before ++ rest) = bodies rest := by
  induction before with
  | nil => rfl
  | cons line before ih =>
    rw [List.cons_append, bodies, if_neg (h line (List.mem_cons_self ..))]
    exact ih fun line hline => h line (List.mem_cons_of_mem _ hline)

/-- Parts are told apart by what stands between them, if it stands nowhere else. -/
theorem splitOnP_intercalate {α : Type} {p : α → Bool} {x : α} {parts : List (List α)} (hx : p x = true)
    (h : ∀ part ∈ parts, ∀ a ∈ part, p a = false) (hne : parts ≠ []) : ([x].intercalate parts).splitOnP p = parts := by
  induction parts with
  | nil => exact absurd rfl hne
  | cons part parts ih =>
    have hpart := h part (List.mem_cons_self ..)
    cases parts with
    | nil => rw [List.intercalate_singleton, List.splitOnP_eq_singleton hpart]
    | cons next others =>
      rw [List.intercalate_cons_cons, List.append_assoc, List.singleton_append,
        List.splitOnP_append_cons_of_forall_mem hpart x hx]
      rw [ih (fun part hmem => h part (List.mem_cons_of_mem _ hmem)) (List.cons_ne_nil _ _)]

/-- **The rows of a grid are read back from the lines of a text in which it stands.** -/
theorem Grid.bodies_lines_append {g : Grid} (hrows : g.rows ≠ []) (rest : List String) :
    bodies (g.lines ++ rest) = g.body :: bodies rest := by
  have hhead : ∀ line ∈ Rule.top.draw g.widths :: drawRow g.widths g.header, mark line ≠ some '╞' := by
    intro line hline
    rcases List.mem_cons.mp hline with rfl | hline
    · rw [Rule.mark_draw]; decide
    · rw [mark_of_mem_drawRow hline]; decide
  have hbody {c : Char} (hdash : c ≠ '├') (hbar : c ≠ '│') :
      ∀ line ∈ [Rule.between.draw g.widths].intercalate g.body, mark line ≠ some c := by
    intro line hline
    rcases g.mark_of_mem_body hline with hmark | hmark
    · rw [hmark]; exact fun heq => hdash (Option.some.inj heq).symm
    · rw [hmark]; exact fun heq => hbar (Option.some.inj heq).symm
  have hedge : mark (Rule.bottom.draw g.widths) = some '└' := Rule.mark_draw _ _
  have hrule : mark (Rule.header.draw g.widths) = some '╞' := Rule.mark_draw _ _
  have htake : ([Rule.between.draw g.widths].intercalate g.body ++ Rule.bottom.draw g.widths :: rest).takeWhile
      (mark · ≠ some '└') = [Rule.between.draw g.widths].intercalate g.body := by
    rw [List.takeWhile_append_of_pos (by simpa using hbody (c := '└') (by decide) (by decide)),
      List.takeWhile_cons_of_neg (by simp [hedge]), List.append_nil]
  have hsplit : ([Rule.between.draw g.widths].intercalate g.body).splitOnP (mark · = some '├') = g.body := by
    refine splitOnP_intercalate (by simp [Rule.mark_draw, Rule.between]) ?_ (by simpa [body] using hrows)
    intro row hrow line hline
    obtain ⟨cells, -, rfl⟩ := List.mem_map.mp hrow
    rw [mark_of_mem_drawRow hline]
    decide
  have hrest : bodies ([Rule.between.draw g.widths].intercalate g.body ++ Rule.bottom.draw g.widths :: rest) =
      bodies rest := by
    rw [bodies_append (hbody (by decide) (by decide)), bodies, if_neg (by rw [hedge]; decide)]
  rw [lines_eq, List.append_assoc, bodies_append hhead, List.cons_append, List.append_assoc, List.singleton_append,
    bodies, if_pos hrule, htake, hsplit, hrest]

end Readback.Text
