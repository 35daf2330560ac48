import ObjectOutline.Proofs.Text.Lines

/-! The last filled line of a text. It is hidden by a filled line behind it, and by nothing else: lines in
front of it and blanks behind it do not matter. So a text with a filled line falls into whole lines, the
last filled line, and blanks. -/
namespace ObjectOutline.Text

theorem lastFilledLine_of_not_mem {line : List Char} (h : '\n' ∉ line) :
    lastFilledLine line = trim line := by
  rw [lastFilledLine, lines_of_not_mem h]
  cases hTrim : trim line with
  | nil => simp [hTrim]
  | cons c rest => simp [hTrim]

/-- No line of blanks is filled. -/
theorem find?_lines_of_isBlank {blanks : List Char} (h : ∀ c ∈ blanks, isBlank c = true) :
    (((lines blanks).map trim).reverse.find? fun line => !line.isEmpty) = none := by
  rw [List.find?_eq_none]
  intro line hLine
  obtain ⟨raw, hRaw, rfl⟩ := List.mem_map.mp (List.mem_reverse.mp hLine)
  rw [trim_of_isBlank fun c hc => h c (mem_of_mem_splitAll hRaw hc)]
  simp

/-- Blanks behind a line feed do not change which line is the last filled one. -/
theorem lastFilledLine_append_blanks {blanks : List Char} (h : ∀ c ∈ blanks, isBlank c = true)
    (cs : List Char) : lastFilledLine (cs ++ '\n' :: blanks) = lastFilledLine cs := by
  rw [lastFilledLine, lines_append, List.map_append, List.reverse_append, List.find?_append,
    find?_lines_of_isBlank h, Option.none_or, lastFilledLine]

/-- A filled line behind a line feed hides the lines in front of it. -/
theorem lastFilledLine_append_of_ne_nil {right : List Char} (h : lastFilledLine right ≠ [])
    (left : List Char) : lastFilledLine (left ++ '\n' :: right) = lastFilledLine right := by
  rw [lastFilledLine] at h
  rw [lastFilledLine, lines_append, List.map_append, List.reverse_append, List.find?_append,
    lastFilledLine]
  cases hFind : ((lines right).map trim).reverse.find? fun line => !line.isEmpty with
  | none =>
      rw [hFind] at h
      exact absurd rfl h
  | some line => rfl

/-- Blank lines in front of a text do not change which line is the last filled one. -/
theorem lastFilledLine_blank_append {blanks : List Char} (hLine : EndsLine blanks)
    (hBlank : ∀ c ∈ blanks, isBlank c = true) (cs : List Char) :
    lastFilledLine (blanks ++ cs) = lastFilledLine cs := by
  rcases hLine with rfl | ⟨before, rfl⟩
  · rfl
  · have hBefore : ∀ c ∈ before, isBlank c = true := fun c hc => hBlank c (List.mem_append_left _ hc)
    rw [lastFilledLine, List.append_assoc, List.singleton_append, lines_append, List.map_append,
      List.reverse_append, List.find?_append, find?_lines_of_isBlank hBefore, Option.or_none,
      lastFilledLine]

/-- A filled line behind whatever lines is the last filled line. -/
theorem lastFilledLine_append_line {before line : List Char} (hBefore : EndsLine before)
    (hLine : '\n' ∉ line) (hFilled : trim line ≠ []) : lastFilledLine (before ++ line) = trim line := by
  have hOwn := lastFilledLine_of_not_mem hLine
  rcases hBefore with rfl | ⟨before, rfl⟩
  · exact hOwn
  · rw [List.append_assoc, List.singleton_append,
      lastFilledLine_append_of_ne_nil (by rwa [hOwn]), hOwn]

/-- A text without a filled line is blank. -/
theorem isBlank_of_lastFilledLine_eq_nil {cs : List Char} (h : lastFilledLine cs = []) :
    ∀ c ∈ cs, isBlank c = true := by
  induction cs using lines_induction with
  | last line hLine =>
      rw [lastFilledLine_of_not_mem hLine] at h
      exact isBlank_of_trim_eq_nil h
  | line line rest hLine ih =>
      have hRest : lastFilledLine rest = [] := by
        refine Decidable.byContradiction fun hFilled => hFilled ?_
        rwa [lastFilledLine_append_of_ne_nil hFilled line] at h
      rw [lastFilledLine_append_blanks (ih hRest), lastFilledLine_of_not_mem hLine] at h
      exact List.forall_mem_append.mpr ⟨isBlank_of_trim_eq_nil h,
        List.forall_mem_cons.mpr ⟨by decide, ih hRest⟩⟩

/-- The text falls into whole lines, its last filled line, and blanks, which start with the line feed of
that line if it has one. -/
structure IsLastFilled (text before line gap : List Char) : Prop where
  text_eq : text = before ++ (line ++ gap)
  endsLine : EndsLine before
  noLineFeed : '\n' ∉ line
  filled : trim line ≠ []
  blank : ∀ c ∈ gap, isBlank c = true
  starts_gap : ∀ c ∈ gap.head?, c = '\n'

theorem IsLastFilled.lastFilledLine_eq {text before line gap : List Char}
    (h : IsLastFilled text before line gap) : lastFilledLine text = trim line := by
  obtain ⟨rfl, hBefore, hLine, hFilled, hBlank, hStarts⟩ := h
  have hLast := lastFilledLine_append_line hBefore hLine hFilled
  cases gap with
  | nil => rwa [List.append_nil]
  | cons c blanks =>
      obtain rfl := hStarts c rfl
      rw [← List.append_assoc, lastFilledLine_append_blanks (List.forall_mem_cons.mp hBlank).2, hLast]

/-- A text with a filled line has a last one. -/
theorem exists_isLastFilled {text : List Char} (h : lastFilledLine text ≠ []) :
    ∃ before line gap, IsLastFilled text before line gap := by
  induction text using lines_induction with
  | last line hLine =>
      rw [lastFilledLine_of_not_mem hLine] at h
      exact ⟨[], line, [], by simp, Or.inl rfl, hLine, h, by simp, by simp⟩
  | line line rest hLine ih =>
      by_cases hRest : lastFilledLine rest = []
      · -- Behind the first line there are only blanks.
        have hBlank := isBlank_of_lastFilledLine_eq_nil hRest
        rw [lastFilledLine_append_blanks hBlank, lastFilledLine_of_not_mem hLine] at h
        exact ⟨[], line, '\n' :: rest, rfl, Or.inl rfl, hLine, h,
          List.forall_mem_cons.mpr ⟨by decide, hBlank⟩, by simp⟩
      · obtain ⟨before, last, gap, hLast⟩ := ih hRest
        refine ⟨(line ++ ['\n']) ++ before, last, gap, { hLast with text_eq := ?_, endsLine := ?_ }⟩
        · simp [hLast.text_eq]
        · exact EndsLine.append (Or.inr ⟨line, rfl⟩) hLast.endsLine

end ObjectOutline.Text
