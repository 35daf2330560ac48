import ObjectOutline.Header
import ObjectOutline.Proofs.Text.Tokens

/-! Numbered headers. A keyword, blanks and a number stand at the start of the line, one after another; what
is read up to the number does not depend on what stands further on. -/
namespace ObjectOutline

namespace Header

variable {text keyword digits gap : List Char}

/-- The keyword, the blanks behind it and the digits take up the text one after another. -/
theorem splitKeywordId?_eq_some_iff :
    splitKeywordId? text = some (keyword, digits, gap) ↔
      ∃ blanks, text = keyword ++ (blanks ++ (digits ++ gap)) ∧
        (keyword ≠ [] ∧ ∀ c ∈ keyword, Text.isLetter c = true) ∧
        (blanks ≠ [] ∧ ∀ c ∈ blanks, Text.isBlank c = true) ∧
        (digits ≠ [] ∧ ∀ c ∈ digits, c.isDigit = true) ∧ ∀ c ∈ gap.head?, c.isDigit = false := by
  constructor
  · intro h
    rw [splitKeywordId?] at h
    split at h
    · cases h
    · next hParts =>
      simp only [Option.some.injEq, Prod.mk.injEq] at h
      obtain ⟨rfl, rfl, rfl⟩ := h
      simp only [Bool.or_eq_true, List.isEmpty_iff, beq_iff_eq, not_or] at hParts
      obtain ⟨⟨hKeyword, hBlanks⟩, hDigits⟩ := hParts
      have hHead := List.head?_dropWhile_not Char.isDigit
        (Text.trimStart (text.dropWhile Text.isLetter))
      refine ⟨(text.dropWhile Text.isLetter).takeWhile Text.isBlank, ?_,
        ⟨hKeyword, List.all_eq_true.mp List.all_takeWhile⟩,
        ⟨?_, List.all_eq_true.mp List.all_takeWhile⟩,
        ⟨hDigits, List.all_eq_true.mp List.all_takeWhile⟩, ?_⟩
      · rw [List.takeWhile_append_dropWhile, Text.trimStart, List.takeWhile_append_dropWhile,
          List.takeWhile_append_dropWhile]
      · intro hNone
        apply hBlanks
        have hGap := @List.takeWhile_append_dropWhile _ Text.isBlank (text.dropWhile Text.isLetter)
        rw [hNone, List.nil_append] at hGap
        rw [Text.trimStart, hGap]
      · intro c hc
        rw [hc] at hHead
        exact hHead
  · rintro ⟨blanks, rfl, ⟨hKeyword, hLetters⟩, ⟨hBlanks, hBlank⟩, ⟨hDigits, hDecimal⟩, hGap⟩
    have hBehindKeyword : ∀ c ∈ (blanks ++ (digits ++ gap)).head?, Text.isLetter c = false := by
      obtain ⟨b, blanks, rfl⟩ := List.exists_cons_of_ne_nil hBlanks
      apply Text.forall_mem_head?_cons
      rw [← Bool.not_eq_true]
      intro hLetter
      simp [Text.not_isBlank_of_isLetter hLetter] at hBlank
    have hBehindBlanks : ∀ c ∈ (digits ++ gap).head?, Text.isBlank c = false := by
      obtain ⟨d, digits, rfl⟩ := List.exists_cons_of_ne_nil hDigits
      apply Text.forall_mem_head?_cons
      exact Text.not_isBlank_of_isIdentifierRest
        (Text.isIdentifierRest_of_isDigit (hDecimal d List.mem_cons_self))
    rw [splitKeywordId?, Text.takeWhile_append_eq_left hLetters hBehindKeyword,
      Text.dropWhile_append_eq_right hLetters hBehindKeyword, Text.trimStart,
      Text.dropWhile_append_eq_right hBlank hBehindBlanks,
      Text.takeWhile_append_eq_left hDecimal hGap, Text.dropWhile_append_eq_right hDecimal hGap]
    simp [hKeyword, hBlanks, hDigits]

/-- What is read up to the digits is read in a longer text too, unless more digits follow. -/
theorem splitKeywordId?_append (h : splitKeywordId? text = some (keyword, digits, gap))
    {more : List Char} (hMore : gap = [] → ∀ c ∈ more.head?, c.isDigit = false) :
    splitKeywordId? (text ++ more) = some (keyword, digits, gap ++ more) := by
  obtain ⟨blanks, rfl, hKeyword, hBlanks, hDigits, hGap⟩ := splitKeywordId?_eq_some_iff.mp h
  refine splitKeywordId?_eq_some_iff.mpr ⟨blanks, by simp, hKeyword, hBlanks, hDigits, ?_⟩
  cases gap with
  | nil => exact hMore rfl
  | cons c rest => exact hGap

/-- Digits do not end a line. -/
theorem gap_ne_nil_of_endsLine (h : splitKeywordId? text = some (keyword, digits, gap))
    (hLine : Text.EndsLine text) : gap ≠ [] := by
  obtain ⟨blanks, rfl, -, -, ⟨hFilled, hDigits⟩, -⟩ := splitKeywordId?_eq_some_iff.mp h
  rintro rfl
  rw [List.append_nil] at hLine
  rcases hLine.of_append.of_append with hNone | ⟨before, hFeed⟩
  · exact hFilled hNone
  · have hDigit := hDigits '\n' (by simp [hFeed])
    exact absurd hDigit (by decide)

/-- Whole lines and a text behind them are split as the lines are, unless the text starts with digits. -/
theorem splitKeywordId?_append_of_endsLine (hLine : Text.EndsLine text) (hFilled : text ≠ [])
    {more : List Char} (hMore : ∀ c ∈ (Text.trimStart more).head?, c.isDigit = false) :
    splitKeywordId? (text ++ more) =
      (splitKeywordId? text).map fun (keyword, digits, gap) => (keyword, digits, gap ++ more) := by
  have hGap : text.dropWhile Text.isLetter ≠ [] := hLine.dropWhile_ne_nil hFilled (by decide)
  have hGapLine := hLine.dropWhile Text.isLetter
  rw [splitKeywordId?, splitKeywordId?, Text.takeWhile_append_of_ne_nil hGap,
    Text.dropWhile_append_of_ne_nil hGap]
  by_cases hBlank : Text.trimStart (text.dropWhile Text.isLetter) = []
  · -- The lines end behind the keyword, and what follows is no number.
    have hDigits : (Text.trimStart more).takeWhile Char.isDigit = [] := by
      cases hHead : Text.trimStart more with
      | nil => rfl
      | cons c rest => simp [hMore c (by simp [hHead])]
    rw [Text.trimStart_append_of_eq_nil hBlank, hBlank, hDigits]
    simp
  · have hNumber : (Text.trimStart (text.dropWhile Text.isLetter)).dropWhile Char.isDigit ≠ [] :=
      (hGapLine.dropWhile Text.isBlank).dropWhile_ne_nil hBlank (by decide)
    have hTrim : Text.trimStart (text.dropWhile Text.isLetter ++ more) =
        Text.trimStart (text.dropWhile Text.isLetter) ++ more :=
      Text.dropWhile_append_of_ne_nil hBlank more
    simp only [hTrim, Text.takeWhile_append_of_ne_nil hNumber, Text.dropWhile_append_of_ne_nil hNumber,
      List.length_append]
    split <;> simp_all

/-- The rest of a numbered line is what stands behind the blanks behind its number. -/
theorem exists_gap_of_splitNumbered? {line rest : List Char}
    (h : splitNumbered? line = some (keyword, digits, rest)) :
    ∃ gap, splitKeywordId? line = some (keyword, digits, gap) ∧ rest = Text.trimStart gap ∧
      (gap ≠ [] → ∃ c ∈ gap.head?, Text.isBlank c = true) ∧ '\n' ∉ rest := by
  rw [splitNumbered?] at h
  split at h
  · cases h
  · next keyword' digits' gap hSplit =>
    split at h
    · next hEmpty =>
      simp only [Option.some.injEq, Prod.mk.injEq] at h
      obtain ⟨rfl, rfl, rfl⟩ := h
      obtain rfl := List.isEmpty_iff.mp hEmpty
      exact ⟨[], hSplit, rfl, fun hGap => absurd rfl hGap, List.not_mem_nil⟩
    · dsimp only at h
      split at h
      · cases h
      · next hRest =>
        simp only [Option.some.injEq, Prod.mk.injEq] at h
        obtain ⟨rfl, rfl, rfl⟩ := h
        simp only [Bool.or_eq_true, beq_iff_eq, not_or, List.contains_iff_mem] at hRest
        refine ⟨gap, hSplit, rfl, fun _ => ?_, hRest.2⟩
        rw [Text.length_trimStart_eq_iff] at hRest
        simpa using hRest.1

/-- A header with an object type is numbered: it says what its line says. -/
theorem classify_of_objectType {line : List Char} (h : (classify line).objectType ≠ "") :
    ∃ keyword digits rest id, splitNumbered? (Text.trim line) = some (keyword, digits, rest) ∧
      Text.word32? digits = some id ∧
      (classify line).objectType = String.ofList (Text.lowerAscii keyword) ∧
      (classify line).id = some id ∧
      ((classify line).target = none →
        (classify line).name = some (String.ofList (Text.stripQuotes rest))) := by
  rw [classify] at h ⊢
  cases hSplit : splitNumbered? (Text.trim line) with
  | none =>
      rw [hSplit] at h
      dsimp only at h
      split at h <;> exact absurd rfl h
  | some parts =>
      obtain ⟨keyword, digits, rest⟩ := parts
      rw [hSplit] at h
      dsimp only at h ⊢
      cases hId : Text.word32? digits with
      | none =>
          rw [ofNumbered, hId] at h
          exact absurd rfl h
      | some id =>
          rw [ofNumbered, hId]
          refine ⟨keyword, digits, rest, id, rfl, hId, rfl, rfl, ?_⟩
          cases splitExtends? rest with
          | none => exact fun _ => rfl
          | some parts => exact fun hTarget => nomatch hTarget

end Header
end ObjectOutline
