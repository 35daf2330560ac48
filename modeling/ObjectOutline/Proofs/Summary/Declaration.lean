import ObjectOutline.Proofs.Header.Numbered
import ObjectOutline.Proofs.Text.LastFilled
import ObjectOutline.Summary

/-! Declarations in a text. A declaration starts on a line, but its keyword, its number and its name may
stand on different lines, so a line that is no declaration by itself may be one together with the lines
behind it. Behind whole lines without a declaration, what is read at the start of the next line counts. -/
namespace ObjectOutline

namespace Text

/-- Blanks behind a name go with its quotes. -/
theorem stripQuotes_append_blanks {blanks : List Char} (h : ∀ c ∈ blanks, isBlank c = true)
    (cs : List Char) : stripQuotes (cs ++ blanks) = stripQuotes cs := by
  rw [stripQuotes, List.filter_append, trim_append_blanks, stripQuotes]
  exact fun c hc => h c (List.mem_filter.mp hc).1

end Text

namespace Summary

variable {before rest : List Char}

theorem splitKeywordId?_of_declarationHere? (h : (declarationHere? rest).isSome = true) :
    ∃ keyword digits gap,
      Header.splitKeywordId? (Text.trimStart rest) = some (keyword, digits, gap) := by
  rw [declarationHere?] at h
  cases hSplit : Header.splitKeywordId? (Text.trimStart rest) with
  | none => simp [hSplit] at h
  | some parts => exact ⟨parts.1, parts.2.1, parts.2.2, rfl⟩

/-- A declaration does not start with a digit. -/
theorem not_isDigit_of_declarationHere? (h : (declarationHere? rest).isSome = true) :
    ∀ c ∈ (Text.trimStart rest).head?, c.isDigit = false := by
  obtain ⟨keyword, digits, gap, hSplit⟩ := splitKeywordId?_of_declarationHere? h
  obtain ⟨blanks, hText, ⟨hFilled, hLetters⟩, -⟩ := Header.splitKeywordId?_eq_some_iff.mp hSplit
  obtain ⟨c, keyword, rfl⟩ := List.exists_cons_of_ne_nil hFilled
  rw [hText]
  exact Text.forall_mem_head?_cons (Text.not_isDigit_of_isLetter (hLetters c List.mem_cons_self)) _

/-- Whole lines that are no declaration do not become one by what follows, unless they are blank: then it
is the declaration that follows. -/
theorem declarationHere?_append (hLine : Text.EndsLine before) (hNone : declarationHere? before = none)
    (hRest : ∀ c ∈ (Text.trimStart rest).head?, c.isDigit = false) :
    declarationHere? (before ++ rest) = none ∨
      declarationHere? (before ++ rest) = declarationHere? rest := by
  by_cases hBlank : Text.trimStart before = []
  · right
    rw [declarationHere?, declarationHere?, Text.trimStart_append_of_eq_nil hBlank]
  · left
    have hTrim : Text.trimStart (before ++ rest) = Text.trimStart before ++ rest :=
      Text.dropWhile_append_of_ne_nil hBlank rest
    have hTrimLine : Text.EndsLine (Text.trimStart before) := hLine.dropWhile Text.isBlank
    rw [declarationHere?, hTrim, Header.splitKeywordId?_append_of_endsLine hTrimLine hBlank hRest]
    rw [declarationHere?] at hNone
    cases hSplit : Header.splitKeywordId? (Text.trimStart before) with
    | none => rfl
    | some parts =>
        obtain ⟨keyword, digits, gap⟩ := parts
        obtain ⟨c, gap, rfl⟩ :=
          List.exists_cons_of_ne_nil (Header.gap_ne_nil_of_endsLine hSplit hTrimLine)
        have hHere : (Text.trimStart (c :: gap)).length = (c :: gap).length := by
          simpa [hSplit] using hNone
        have hBoth : (Text.trimStart (c :: gap ++ rest)).length = (c :: gap ++ rest).length := by
          rw [Text.length_trimStart_eq_iff] at hHere ⊢
          exact hHere
        simp only [Option.map_some, hBoth, beq_self_eq_true, if_true]

theorem declarationFrom?_append (hLine : Text.EndsLine before) (hFilled : before ≠ [])
    (hNone : declarationFrom? before = none) (hSome : (declarationHere? rest).isSome = true) :
    declarationFrom? (before ++ rest) = declarationHere? rest := by
  have hFirst (other : Option (List Char × List Char × List Char)) :
      (declarationHere? rest).or other = declarationHere? rest := Option.or_of_isSome hSome
  induction before with
  | nil => exact absurd rfl hFilled
  | cons c before ih =>
      rw [List.cons_append, declarationFrom?]
      rw [declarationFrom?] at hNone
      by_cases hEnd : before = []
      · obtain rfl : c = '\n' := by
          rcases hLine with hNil | ⟨front, hFeed⟩
          · cases hNil
          · have hLast := congrArg List.getLast? hFeed
            rw [hEnd, List.getLast?_concat] at hLast
            exact Option.some.inj hLast
        rw [if_pos rfl, hEnd, List.nil_append, hFirst]
      · have hRest : Text.EndsLine before := @Text.EndsLine.of_append [c] _ hLine
        split at hNone
        · next hFeed =>
          obtain ⟨hHere, hLater⟩ := Option.or_eq_none_iff.mp hNone
          rw [if_pos hFeed, ih hRest hEnd hLater]
          rcases declarationHere?_append hRest hHere (not_isDigit_of_declarationHere? hSome) with
            hNot | hSame
          · rw [hNot, Option.none_or]
          · rw [hSame, hFirst]
        · next hFeed => rw [if_neg hFeed, ih hRest hEnd hNone]

/-- Behind whole lines without a declaration, the next line is read. -/
theorem declaration?_append (hLine : Text.EndsLine before) (hNone : declaration? before = none)
    (hSome : (declarationHere? rest).isSome = true) :
    declaration? (before ++ rest) = declarationHere? rest := by
  rw [declaration?] at hNone ⊢
  by_cases hEmpty : before = []
  · rw [hEmpty, List.nil_append, Option.or_of_isSome hSome]
  · obtain ⟨hHere, hLater⟩ := Option.or_eq_none_iff.mp hNone
    rw [declarationFrom?_append hLine hEmpty hLater hSome]
    rcases declarationHere?_append hLine hHere (not_isDigit_of_declarationHere? hSome) with
      hNot | hSame
    · rw [hNot, Option.none_or]
    · rw [hSame, Option.or_of_isSome hSome]

theorem declarationHere?_blank_append {blanks : List Char} (h : ∀ c ∈ blanks, Text.isBlank c = true)
    (text : List Char) : declarationHere? (blanks ++ text) = declarationHere? text := by
  rw [declarationHere?, Text.trimStart_append_of_isBlank h, declarationHere?]

/-- A numbered header line is a declaration when a blank stands behind its number. The name is the rest
of the line, up to where the line ends in the text. -/
theorem declarationHere?_append_of_splitNumbered? {line keyword digits rest more : List Char}
    (h : Header.splitNumbered? line = some (keyword, digits, rest))
    (hBehind : rest ≠ [] ∨ ∃ c ∈ more.head?, Text.isBlank c = true) :
    ∃ name, declarationHere? (line ++ more) = some (keyword, digits, name) ∧
      (rest ≠ [] → name = (rest ++ more).takeWhile (· != '\n')) := by
  obtain ⟨gap, hSplit, rfl, hGap, -⟩ := Header.exists_gap_of_splitNumbered? h
  -- The number ends at a blank, which stands on the line or behind it.
  have hBlank : ∃ c ∈ (gap ++ more).head?, Text.isBlank c = true := by
    cases gap with
    | nil => exact hBehind.resolve_left fun hRest => hRest rfl
    | cons c gap => exact hGap (List.cons_ne_nil _ _)
  have hDigits : gap = [] → ∀ c ∈ more.head?, c.isDigit = false := by
    rintro rfl c hc
    obtain ⟨d, hd, hBlank⟩ := hBlank
    obtain rfl := Option.mem_unique hd hc
    exact Text.not_isDigit_of_isBlank hBlank
  have hStart : Text.trimStart (line ++ more) = line ++ more := by
    obtain ⟨blanks, rfl, ⟨hKeyword, hLetters⟩, -⟩ := Header.splitKeywordId?_eq_some_iff.mp hSplit
    obtain ⟨c, keyword, rfl⟩ := List.exists_cons_of_ne_nil hKeyword
    exact Text.trimStart_cons_of_not_isBlank
      (Text.not_isBlank_of_isLetter (hLetters c List.mem_cons_self))
  have hShort : (Text.trimStart (gap ++ more)).length ≠ (gap ++ more).length := by
    rw [Ne, Text.length_trimStart_eq_iff]
    obtain ⟨c, hc, hBlank⟩ := hBlank
    intro hFilled
    rw [hFilled c hc] at hBlank
    cases hBlank
  refine ⟨(Text.trimStart (gap ++ more)).takeWhile (· != '\n'), ?_, fun hRest => ?_⟩
  · rw [declarationHere?, hStart, Header.splitKeywordId?_append hSplit hDigits]
    simp only [beq_iff_eq, if_neg hShort]
  · rw [Text.trimStart, Text.dropWhile_append_of_ne_nil hRest]
    rfl

/-- The last filled line in front of an opening brace is the declaration of the text, if it is numbered and
nothing in front of it is a declaration, unless the brace stands directly behind the number. The name is the
one on the line when the line ends in front of the brace. -/
theorem declaration?_of_isLastFilled {pre before line gap keyword digits rest : List Char}
    (hLast : Text.IsLastFilled pre before line gap)
    (hSplit : Header.splitNumbered? (Text.trim line) = some (keyword, digits, rest))
    (hBefore : declaration? before = none)
    (hBehind : rest ≠ [] ∨ ∃ c ∈ pre.getLast?, Text.isBlank c = true) (inside : List Char) :
    ∃ name, declaration? (pre ++ '{' :: inside) = some (keyword, digits, name) ∧
      (rest ≠ [] → gap ≠ [] → Text.stripQuotes name = Text.stripQuotes rest) := by
  obtain ⟨front, back, hLine, hFront, hBack⟩ := Text.exists_trim line
  have hPre : pre = before ++ (front ++ (Text.trim line ++ (back ++ gap))) := by
    have hBoth := congrArg (· ++ gap) hLine
    rw [hLast.text_eq]
    simpa only [List.append_assoc] using congrArg (before ++ ·) hBoth
  have hMore : rest ≠ [] ∨ ∃ c ∈ ((back ++ gap) ++ '{' :: inside).head?, Text.isBlank c = true := by
    refine hBehind.imp_right fun ⟨c, hc, hBlank⟩ => ?_
    cases hGap : back ++ gap with
    | nil =>
        have hEnd := ((Text.trim_eq_self_iff _).mp (Text.trim_trim line)).2
        rw [hPre, hGap, List.append_nil, ← List.append_assoc, List.getLast?_append,
          List.getLast?_eq_some_getLast hLast.filled, Option.some_or] at hc
        rw [hEnd c (by rwa [List.getLast?_eq_some_getLast hLast.filled])] at hBlank
        cases hBlank
    | cons d more =>
        have hAll := List.forall_mem_append.mpr ⟨hBack, hLast.blank⟩
        rw [hGap] at hAll
        exact ⟨d, rfl, hAll d List.mem_cons_self⟩
  obtain ⟨name, hHere, hName⟩ := declarationHere?_append_of_splitNumbered? hSplit hMore
  rw [← declarationHere?_blank_append hFront] at hHere
  refine ⟨name, ?_, fun hRest hGap => ?_⟩
  · rw [hPre, List.append_assoc, List.append_assoc, List.append_assoc,
      declaration?_append hLast.endsLine hBefore (by rw [hHere]; rfl), hHere]
  · obtain ⟨c, blanks, rfl⟩ := List.exists_cons_of_ne_nil hGap
    obtain rfl := hLast.starts_gap c rfl
    have hOneLine : ∀ c ∈ rest ++ back, (c != '\n') = true := by
      obtain ⟨-, -, -, -, hRestLine⟩ := Header.exists_gap_of_splitNumbered? hSplit
      have hBackLine : '\n' ∉ back := by
        intro hFeed
        apply hLast.noLineFeed
        rw [hLine]
        simp [hFeed]
      intro c hc
      simp only [bne_iff_ne]
      rintro rfl
      exact (List.mem_append.mp hc).elim hRestLine hBackLine
    have hFeed : ∀ c ∈ ('\n' :: (blanks ++ '{' :: inside)).head?, (c != '\n') = false :=
      Text.forall_mem_head?_cons (by decide) _
    rw [hName hRest, List.append_assoc, ← List.append_assoc, List.cons_append,
      Text.takeWhile_append_eq_left hOneLine hFeed, Text.stripQuotes_append_blanks hBack]

end Summary
end ObjectOutline
