import ObjectOutline.Text.Lines

/-! Trimmed texts and lines. A text with no blank at either end is its own trimmed form, blanks around
it change nothing, and the lines of a text are the lines before a line feed and the lines behind it. -/
namespace ObjectOutline.Text

section

variable {α : Type} {p : α → Bool} {taken rest left : List α}

/-- What fits is taken, and the rest starts where it stops fitting. -/
theorem takeWhile_append_eq_left (hTaken : ∀ c ∈ taken, p c = true)
    (hRest : ∀ c ∈ rest.head?, p c = false) : (taken ++ rest).takeWhile p = taken := by
  rw [List.takeWhile_append_of_pos hTaken]
  cases rest with
  | nil => simp
  | cons c rest => simp [hRest c rfl]

theorem dropWhile_append_eq_right (hTaken : ∀ c ∈ taken, p c = true)
    (hRest : ∀ c ∈ rest.head?, p c = false) : (taken ++ rest).dropWhile p = rest := by
  rw [List.dropWhile_append_of_pos hTaken]
  cases rest with
  | nil => simp
  | cons c rest => simp [hRest c rfl]

/-- Where the first part has something that does not fit, the second part is not looked at. -/
theorem dropWhile_append_of_ne_nil (h : left.dropWhile p ≠ []) (right : List α) :
    (left ++ right).dropWhile p = left.dropWhile p ++ right := by
  rw [List.dropWhile_append, if_neg (by simpa using h)]

theorem takeWhile_append_of_ne_nil (h : left.dropWhile p ≠ []) (right : List α) :
    (left ++ right).takeWhile p = left.takeWhile p := by
  have hShort : (left.takeWhile p).length ≠ left.length := by
    intro hAll
    have hLength := congrArg List.length (@List.takeWhile_append_dropWhile _ p left)
    rw [List.length_append, hAll] at hLength
    exact h (List.length_eq_zero_iff.mp (by omega))
  rw [List.takeWhile_append, if_neg hShort]

end

/-- What holds of the first character of a text holds of whatever its head turns out to be. -/
theorem forall_mem_head?_cons {motive : Char → Prop} {c : Char} (h : motive c) (rest : List Char) :
    ∀ d ∈ (c :: rest).head?, motive d := by
  intro d hd
  rwa [← Option.some.inj hd]

theorem trimStart_eq_self_iff (cs : List Char) :
    trimStart cs = cs ↔ ∀ c ∈ cs.head?, isBlank c = false := by
  cases cs with
  | nil => simp [trimStart]
  | cons c rest =>
      cases hBlank : isBlank c with
      | false => simp [trimStart, hBlank]
      | true =>
          rw [trimStart_cons_of_isBlank hBlank]
          have hShort : (trimStart rest).length ≤ rest.length :=
            (List.dropWhile_sublist isBlank).length_le
          constructor
          · intro hEq
            have hLength := congrArg List.length hEq
            rw [List.length_cons] at hLength
            omega
          · simp [hBlank]

theorem trimEnd_eq_self_iff (cs : List Char) :
    trimEnd cs = cs ↔ ∀ c ∈ cs.getLast?, isBlank c = false := by
  have hStart := trimStart_eq_self_iff cs.reverse
  rw [List.head?_reverse] at hStart
  rw [← hStart, trimEnd, trimStart, List.reverse_eq_iff]

/-- Trimming leaves a text alone when it has nothing to do at either end. -/
theorem trim_eq_self_iff (cs : List Char) :
    trim cs = cs ↔ (∀ c ∈ cs.head?, isBlank c = false) ∧ ∀ c ∈ cs.getLast?, isBlank c = false := by
  rw [← trimStart_eq_self_iff, ← trimEnd_eq_self_iff, trim]
  constructor
  · intro hTrim
    have hEnd : (trimEnd (trimStart cs)).length ≤ (trimStart cs).length := by
      rw [trimEnd, List.length_reverse, ← @List.length_reverse _ (trimStart cs)]
      exact (List.dropWhile_sublist isBlank).length_le
    have hStart : trimStart cs = cs := by
      apply (List.dropWhile_sublist isBlank).eq_of_length_le
      rwa [hTrim] at hEnd
    exact ⟨hStart, by rwa [hStart] at hTrim⟩
  · rintro ⟨hStart, hEnd⟩
    rw [hStart, hEnd]

theorem trim_of_not_isBlank {cs : List Char} (h : ∀ c ∈ cs, isBlank c = false) : trim cs = cs :=
  (trim_eq_self_iff cs).mpr ⟨fun c hc => h c (List.mem_of_mem_head? hc),
    fun c hc => h c (List.mem_of_mem_getLast? hc)⟩

theorem trimStart_append_of_eq_nil {left : List Char} (h : trimStart left = []) (right : List Char) :
    trimStart (left ++ right) = trimStart right := by
  rw [trimStart] at h
  rw [trimStart, List.dropWhile_append, h]
  rfl

theorem length_trimStart_eq_iff (cs : List Char) :
    (trimStart cs).length = cs.length ↔ ∀ c ∈ cs.head?, isBlank c = false := by
  rw [← trimStart_eq_self_iff]
  exact ⟨(List.dropWhile_sublist isBlank).eq_of_length, congrArg List.length⟩

theorem trimStart_append_of_isBlank {blanks : List Char} (h : ∀ c ∈ blanks, isBlank c = true)
    (cs : List Char) : trimStart (blanks ++ cs) = trimStart cs :=
  List.dropWhile_append_of_pos h

theorem trimEnd_append_of_isBlank {blanks : List Char} (h : ∀ c ∈ blanks, isBlank c = true)
    (cs : List Char) : trimEnd (cs ++ blanks) = trimEnd cs := by
  have hReverse : ∀ c ∈ blanks.reverse, isBlank c = true := by
    simpa using h
  rw [trimEnd, List.reverse_append, List.dropWhile_append_of_pos hReverse, trimEnd]

theorem trim_of_isBlank {blanks : List Char} (h : ∀ c ∈ blanks, isBlank c = true) :
    trim blanks = [] := by
  rw [trim, ← List.append_nil blanks, trimStart_append_of_isBlank h]
  rfl

/-- Blanks in front of a text are trimmed off. -/
theorem trim_append_of_isBlank {blanks : List Char} (h : ∀ c ∈ blanks, isBlank c = true)
    (cs : List Char) : trim (blanks ++ cs) = trim cs := by
  rw [trim, trimStart_append_of_isBlank h, trim]

theorem trim_space_cons (cs : List Char) : trim (' ' :: cs) = trim cs := by
  rw [trim, trimStart_cons_of_isBlank (by decide), trim]

/-- A text is trimmed when what it starts with and what it ends with are. -/
theorem trim_between {left right : List Char} (hLeft : trim left = left) (hLeftFilled : left ≠ [])
    (hRight : trim right = right) (hRightFilled : right ≠ []) (middle : List Char) :
    trim (left ++ (middle ++ right)) = left ++ (middle ++ right) := by
  rw [trim_eq_self_iff] at hLeft hRight ⊢
  refine ⟨?_, ?_⟩
  · intro c hc
    obtain ⟨d, rest, rfl⟩ := List.exists_cons_of_ne_nil hLeftFilled
    exact hLeft.1 c hc
  · intro c hc
    rw [← List.append_assoc, List.getLast?_append,
      List.getLast?_eq_some_getLast hRightFilled, Option.some_or] at hc
    apply hRight.2
    rwa [List.getLast?_eq_some_getLast hRightFilled]

/-- Only blanks are taken off behind a text. -/
theorem exists_trimEnd (cs : List Char) :
    ∃ back, cs = trimEnd cs ++ back ∧ ∀ c ∈ back, isBlank c = true := by
  refine ⟨(cs.reverse.takeWhile isBlank).reverse, ?_, ?_⟩
  · rw [trimEnd, ← List.reverse_append, List.takeWhile_append_dropWhile, List.reverse_reverse]
  · intro c hc
    exact List.all_eq_true.mp List.all_takeWhile c (List.mem_reverse.mp hc)

/-- Trimming takes blanks off at both ends, and nothing else. -/
theorem exists_trim (cs : List Char) :
    ∃ front back, cs = front ++ (trim cs ++ back) ∧ (∀ c ∈ front, isBlank c = true) ∧
      ∀ c ∈ back, isBlank c = true := by
  obtain ⟨back, hText, hBack⟩ := exists_trimEnd (trimStart cs)
  refine ⟨cs.takeWhile isBlank, back, ?_, List.all_eq_true.mp List.all_takeWhile, hBack⟩
  rw [trim, ← hText, trimStart, List.takeWhile_append_dropWhile]

/-- Blanks behind a text are trimmed off. -/
theorem trim_append_blanks {blanks : List Char} (h : ∀ c ∈ blanks, isBlank c = true)
    (cs : List Char) : trim (cs ++ blanks) = trim cs := by
  rw [trim, trimStart, List.dropWhile_append]
  split
  · next hNone =>
    have hStart : trimStart cs = [] := List.isEmpty_iff.mp hNone
    rw [trim, hStart]
    exact trim_of_isBlank h
  · rw [trimEnd_append_of_isBlank h, trim, trimStart]

theorem trim_trimEnd (cs : List Char) : trim (trimEnd cs) = trim cs := by
  obtain ⟨back, hText, hBack⟩ := exists_trimEnd cs
  have hTrim := congrArg trim hText
  rwa [trim_append_blanks hBack, eq_comm] at hTrim

theorem trim_trim (cs : List Char) : trim (trim cs) = trim cs := by
  obtain ⟨front, back, hText, hFront, hBack⟩ := exists_trim cs
  have hTrim := congrArg trim hText
  rwa [trim_append_of_isBlank hFront, trim_append_blanks hBack, eq_comm] at hTrim

theorem isBlank_of_trim_eq_nil {cs : List Char} (h : trim cs = []) : ∀ c ∈ cs, isBlank c = true := by
  obtain ⟨front, back, hText, hFront, hBack⟩ := exists_trim cs
  rw [h, List.nil_append] at hText
  rw [hText]
  exact List.forall_mem_append.mpr ⟨hFront, hBack⟩

/-- Blanks are taken off only behind the last character that is none. -/
theorem trimEnd_append_cons {c : Char} (h : isBlank c = false) (left right : List Char) :
    trimEnd (left ++ c :: right) = left ++ c :: trimEnd right := by
  have hReverse : (left ++ c :: right).reverse = right.reverse ++ c :: left.reverse := by
    simp
  have hStop : (c :: left.reverse).dropWhile isBlank = c :: left.reverse := by
    simp [h]
  rw [trimEnd, hReverse, List.dropWhile_append, hStop, trimEnd]
  split
  · next hNone => simp [List.isEmpty_iff.mp hNone]
  · simp

/-- Behind a trimmed text and a character that is not blank, blanks are taken off at the end only. -/
theorem trim_append_cons {left : List Char} (h : trim left = left) {c : Char}
    (hFilled : isBlank c = false) (right : List Char) :
    trim (left ++ c :: right) = left ++ c :: trimEnd right := by
  have hStart : trimStart (left ++ c :: right) = left ++ c :: right := by
    rw [trimStart_eq_self_iff]
    cases left with
    | nil => exact forall_mem_head?_cons hFilled right
    | cons d rest => exact ((trim_eq_self_iff _).mp h).1
  rw [trim, hStart, trimEnd_append_cons hFilled]

/-- A character that is not blank may stand behind a trimmed text. -/
theorem trim_append_singleton {cs : List Char} (h : trim cs = cs) {c : Char}
    (hFilled : isBlank c = false) : trim (cs ++ [c]) = cs ++ [c] :=
  trim_append_cons h hFilled []

theorem count_trim {c : Char} (h : isBlank c = false) (cs : List Char) :
    (trim cs).count c = cs.count c := by
  have hAbsent {blanks : List Char} (hBlank : ∀ d ∈ blanks, isBlank d = true) :
      blanks.count c = 0 := by
    apply List.count_eq_zero.mpr
    intro hc
    rw [hBlank c hc] at h
    cases h
  obtain ⟨front, back, hText, hFront, hBack⟩ := exists_trim cs
  have hCount := congrArg (List.count c) hText
  rw [List.count_append, List.count_append, hAbsent hFront, hAbsent hBack] at hCount
  omega

theorem splitAll_append (separator : Char) (left right : List Char) :
    splitAll separator (left ++ separator :: right) =
      splitAll separator left ++ splitAll separator right := by
  induction left with
  | nil => simp [splitAll]
  | cons c rest ih =>
      by_cases hSeparator : c = separator
      · simp [splitAll, hSeparator, ih]
      · rw [List.cons_append, splitAll, if_neg hSeparator, ih, splitAll, if_neg hSeparator]
        cases hRest : splitAll separator rest with
        | nil => exact absurd hRest (splitAll_ne_nil separator rest)
        | cons piece pieces => rfl

theorem splitAll_of_not_mem {separator : Char} {cs : List Char} (h : separator ∉ cs) :
    splitAll separator cs = [cs] := by
  induction cs with
  | nil => rfl
  | cons c rest ih =>
      rw [List.mem_cons, not_or] at h
      rw [splitAll, if_neg (Ne.symm h.1), ih h.2]

/-- The pieces of a text are made of its characters. -/
theorem mem_of_mem_splitAll {separator : Char} {cs piece : List Char} {c : Char}
    (h : piece ∈ splitAll separator cs) (hc : c ∈ piece) : c ∈ cs := by
  induction cs generalizing piece with
  | nil =>
      rw [splitAll, List.mem_singleton] at h
      rwa [h] at hc
  | cons d rest ih =>
      by_cases hSeparator : d = separator
      · rw [splitAll, if_pos hSeparator] at h
        rcases List.mem_cons.mp h with rfl | hLater
        · simp at hc
        · exact List.mem_cons_of_mem d (ih hLater hc)
      · rw [splitAll, if_neg hSeparator] at h
        cases hRest : splitAll separator rest with
        | nil => exact absurd hRest (splitAll_ne_nil separator rest)
        | cons first pieces =>
            rw [hRest] at h ih
            rcases List.mem_cons.mp h with rfl | hLater
            · rcases List.mem_cons.mp hc with rfl | hFirst
              · exact List.mem_cons_self
              · exact List.mem_cons_of_mem d (ih List.mem_cons_self hFirst)
            · exact List.mem_cons_of_mem d (ih (List.mem_cons_of_mem first hLater) hc)

/-- A statement holds of every text when it holds of texts of one line, and passes from a text to one
with a line more in front. -/
theorem lines_induction {motive : List Char → Prop} (last : ∀ line, '\n' ∉ line → motive line)
    (line : ∀ line rest, '\n' ∉ line → motive rest → motive (line ++ '\n' :: rest))
    (text : List Char) : motive text := by
  induction hLength : text.length using Nat.strongRecOn generalizing text with
  | ind length ih =>
      by_cases hFeed : '\n' ∈ text
      · obtain ⟨first, rest, rfl, hFirst⟩ := List.eq_append_cons_of_mem hFeed
        rw [List.length_append, List.length_cons] at hLength
        exact line first rest hFirst (ih rest.length (by omega) rest rfl)
      · exact last text hFeed

/-- A line feed ends one line and starts another. -/
theorem lines_append (left right : List Char) :
    lines (left ++ '\n' :: right) = lines left ++ lines right :=
  splitAll_append '\n' left right

theorem lines_of_not_mem {cs : List Char} (h : '\n' ∉ cs) : lines cs = [cs] :=
  splitAll_of_not_mem h

/-- The text consists of whole lines, each with its line feed. -/
def EndsLine (cs : List Char) : Prop :=
  cs = [] ∨ ∃ before, cs = before ++ ['\n']

theorem EndsLine.append {left right : List Char} (hLeft : EndsLine left) (hRight : EndsLine right) :
    EndsLine (left ++ right) := by
  rcases hRight with rfl | ⟨before, rfl⟩
  · rwa [List.append_nil]
  · exact Or.inr ⟨left ++ before, (List.append_assoc _ _ _).symm⟩

/-- Whatever stands at the end of whole lines ends with a line feed as well. -/
theorem EndsLine.of_append {left right : List Char} (h : EndsLine (left ++ right)) :
    EndsLine right := by
  rcases List.eq_nil_or_concat right with rfl | ⟨init, last, rfl⟩
  · exact Or.inl rfl
  · rcases h with hNil | ⟨before, hBefore⟩
    · simp at hNil
    · rw [List.concat_eq_append, ← List.append_assoc] at hBefore
      obtain ⟨-, hLast⟩ := List.append_inj' hBefore rfl
      exact Or.inr ⟨init, by rw [List.concat_eq_append, hLast]⟩

/-- What does not fit a line feed stops at the latest at the end of whole lines. -/
theorem EndsLine.dropWhile_ne_nil {lines : List Char} (h : EndsLine lines) (hFilled : lines ≠ [])
    {p : Char → Bool} (hFeed : p '\n' = false) : lines.dropWhile p ≠ [] := by
  rcases h with rfl | ⟨before, rfl⟩
  · exact absurd rfl hFilled
  · intro hNone
    rw [List.dropWhile_append] at hNone
    split at hNone
    · simp [hFeed] at hNone
    · simp at hNone

theorem EndsLine.dropWhile {lines : List Char} (h : EndsLine lines) (p : Char → Bool) :
    EndsLine (lines.dropWhile p) := by
  rw [← @List.takeWhile_append_dropWhile _ p lines] at h
  exact h.of_append

end ObjectOutline.Text
