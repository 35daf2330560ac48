import ObjectOutline.Proofs.Brace.Passed

/-! Comments as they are delimited when a source is read from its start. The search for blocks passes over a
comment, and it passes over spaces in its place as well. -/
namespace ObjectOutline

namespace Text

/-- Between the two texts stands a comment: read from code, it opens behind the first text, and it ends
where the second one starts. -/
inductive IsComment (before : List Char) : List Char → List Char → Prop
  /-- A line comment ends in front of the line feed or with the source. -/
  | line {text after : List Char} (opens : (Mode.code.run before).step '/' = .slash)
      (oneLine : '\n' ∉ text) (ends : after = [] ∨ ∃ rest, after = '\n' :: rest) :
      IsComment before ('/' :: '/' :: text) after
  /-- A block comment ends with the first slash behind a star. -/
  | block {text after : List Char} (opens : (Mode.code.run before).step '/' = .slash)
      (inside : ∀ left, left <+: text → (Mode.blockComment.run left).inBlockComment = true)
      (ends : Mode.blockComment.run text = .star) :
      IsComment before ('/' :: '*' :: (text ++ ['/'])) after
  /-- A block comment without an end runs to the end of the source. -/
  | unfinished {text : List Char} (opens : (Mode.code.run before).step '/' = .slash)
      (inside : ∀ left, left <+: text → (Mode.blockComment.run left).inBlockComment = true) :
      IsComment before ('/' :: '*' :: text) []

/-- The text with a space for every character but its line feeds. -/
def blanked (text : List Char) : List Char :=
  text.map fun c => if c = '\n' then c else ' '

theorem isBlank_of_mem_blanked {text : List Char} : ∀ c ∈ blanked text, isBlank c = true := by
  intro c hc
  obtain ⟨d, -, rfl⟩ := List.mem_map.mp hc
  split
  · next hFeed =>
    rw [hFeed]
    decide
  · decide

end Text

namespace Mode

/-- A text that stays inside a block comment is passed over. -/
theorem passes_of_inBlockComment {mode : Mode} {text : List Char}
    (h : ∀ left, left <+: text → (mode.run left).inBlockComment = true) :
    mode.Passes text (mode.run text) := by
  induction text generalizing mode with
  | nil => exact Passes.nil mode
  | cons c rest ih =>
      have hCode : mode.readsCode = false := by
        have hMode := h [] List.nil_prefix
        cases mode <;> first | rfl | simp [inBlockComment] at hMode
      apply Passes.cons
      · rw [opens, hCode, Bool.false_and]
      · rw [closes, hCode, Bool.false_and]
      · exact ih fun left hLeft => h (c :: left) (List.cons_prefix_cons.mpr ⟨rfl, hLeft⟩)

/-- Where a comment can open, a space leaves nothing open. -/
theorem step_space_of_slash {mode : Mode} (h : mode.step '/' = .slash) : mode.step ' ' = .code := by
  cases mode <;> first | rfl | exact absurd h (by decide)

/-- Behind the two characters that open a comment the rest is read. -/
theorem passes_comment {mode after : Mode} {opener : Char} {text : List Char}
    (h : mode.step '/' = .slash) (hOpener : opener = '/' ∨ opener = '*')
    (hText : (Mode.slash.step opener).Passes text after) :
    mode.Passes ('/' :: opener :: text) after := by
  apply Passes.cons
  · simp [opens]
  · simp [closes]
  · rw [h]
    apply Passes.cons _ _ hText <;> rcases hOpener with rfl | rfl <;> rfl

end Mode

namespace Text

variable {before comment after : List Char}

/-- The search for blocks passes over a comment. -/
theorem IsComment.passed (h : IsComment before comment after) : Passed before comment after := by
  cases h with
  | @line text after hOpens hLine hEnds =>
      have hText : Mode.lineComment.Passes text .lineComment := by
        apply Mode.Passes.of_forall
        intro c hc
        have hOther : c ≠ '\n' := fun hFeed => hLine (hFeed ▸ hc)
        simp [Mode.step, Mode.opens, Mode.closes, Mode.readsCode, hOther]
      have hPasses := Mode.passes_comment hOpens (Or.inl rfl) hText
      refine ⟨hPasses.1, ?_⟩
      rw [Mode.run_append, hPasses.2]
      exact Or.inr (hEnds.imp_right fun hFeed => ⟨rfl, hFeed⟩)
  | @block text after hOpens hInside hEnds =>
      have hText := Mode.passes_of_inBlockComment hInside
      have hEnd : (Mode.blockComment.run text).Passes ['/'] .code := by
        rw [hEnds]
        exact ⟨rfl, rfl⟩
      have hPasses := Mode.passes_comment hOpens (Or.inr rfl) (hText.append hEnd)
      refine ⟨hPasses.1, ?_⟩
      rw [Mode.run_append, hPasses.2]
      exact Or.inl rfl
  | @unfinished text hOpens hInside =>
      have hText := Mode.passes_of_inBlockComment hInside
      have hPasses := Mode.passes_comment hOpens (Or.inr rfl) hText
      exact ⟨hPasses.1, Or.inr (Or.inl rfl)⟩

theorem IsComment.exists_cons (h : IsComment before comment after) :
    (Mode.code.run before).step '/' = .slash ∧ ∃ rest, comment = '/' :: rest := by
  cases h with
  | line hOpens hLine hEnds => exact ⟨hOpens, _, rfl⟩
  | block hOpens hInside hEnds => exact ⟨hOpens, _, rfl⟩
  | unfinished hOpens hInside => exact ⟨hOpens, _, rfl⟩

/-- It passes over spaces in its place as well. -/
theorem IsComment.passed_blanked (h : IsComment before comment after) :
    Passed before (blanked comment) after := by
  obtain ⟨hOpens, rest, rfl⟩ := h.exists_cons
  have hRest : Mode.code.Passes (blanked rest) .code :=
    Mode.passes_of_isPlain fun c hc => Mode.isPlain_of_isBlank (isBlank_of_mem_blanked c hc)
  have hPasses : (Mode.code.run before).Passes (blanked ('/' :: rest)) .code := by
    apply Mode.Passes.cons
    · simp [Mode.opens]
    · simp [Mode.closes]
    · show ((Mode.code.run before).step ' ').Passes (blanked rest) .code
      rw [Mode.step_space_of_slash hOpens]
      exact hRest
  refine ⟨hPasses.1, ?_⟩
  rw [Mode.run_append, hPasses.2]
  exact Or.inl rfl

end Text

end ObjectOutline
