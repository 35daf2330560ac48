import ObjectOutline.Proofs.Symbol.Arguments
import ObjectOutline.Proofs.Symbol.Literal

/-! Captions in several languages. The value of `CaptionML` loses all its apostrophes before it is
divided, so its first caption is the one that the same literal gives for `Caption` only if that
caption holds no apostrophe and nothing that reads like the start of another language. -/
namespace ObjectOutline.Caption

/-- The three letters that name a language, such as `ENU`. -/
structure LanguageTag where
  chars : List Char
  length_eq : chars.length = 3
  letters : chars.all Char.isAlpha = true

namespace LanguageTag

variable (tag : LanguageTag)

theorem exists_chars : ∃ a b c : Char, tag.chars = [a, b, c] ∧
    a.isAlpha = true ∧ b.isAlpha = true ∧ c.isAlpha = true := by
  obtain ⟨chars, hLength, hLetters⟩ := tag
  match chars, hLength with
  | [a, b, c], _ => exact ⟨a, b, c, rfl, by simpa [and_assoc] using hLetters⟩

theorem not_mem {c : Char} (h : c.isAlpha = false) : c ∉ tag.chars := by
  intro hc
  rw [List.all_eq_true.mp tag.letters c hc] at h
  cases h

theorem head?_not_isBlank (rest : List Char) :
    ∀ c ∈ (tag.chars ++ rest).head?, Text.isBlank c = false := by
  obtain ⟨a, b, c, hChars, hAlpha, -⟩ := tag.exists_chars
  rw [hChars]
  exact Text.forall_mem_head?_cons
    (Text.not_isBlank_of_isIdentifierRest (by simp [Text.isIdentifierRest, Char.isAlphanum, hAlpha])) _

end LanguageTag

/-- A caption and the language that it is written in. -/
structure Translation where
  tag : LanguageTag
  caption : List Char

/-- The translation as a value lists it, such as `ENU='No.'`. -/
def Translation.text (translation : Translation) : List Char :=
  translation.tag.chars ++ '=' :: literal translation.caption

/-- A value of `CaptionML`: translations with commas between them. -/
def languages (first : Translation) (others : List Translation) : List Char :=
  first.text ++ others.flatMap fun other => ',' :: other.text

/-- Behind blanks, the text starts with a language tag and an equals sign. -/
def StartsLanguage (text : List Char) : Prop :=
  ∃ (blanks : List Char) (tag : LanguageTag) (rest : List Char),
    (∀ c ∈ blanks, Text.isBlank c = true) ∧ text = blanks ++ (tag.chars ++ '=' :: rest)

/-- A comma of the text stands in front of a language tag and its equals sign. -/
def MentionsLanguage (text : List Char) : Prop :=
  ∃ before rest, text = before ++ ',' :: rest ∧ StartsLanguage rest

theorem startsLanguage_iff (text : List Char) :
    startsLanguage text = true ↔ StartsLanguage text := by
  constructor
  · intro h
    rw [startsLanguage] at h
    split at h
    · next a b c rest hStart =>
      simp only [Bool.and_eq_true] at h
      refine ⟨text.takeWhile Text.isBlank, ⟨[a, b, c], rfl, by simp [h]⟩, rest,
        List.all_eq_true.mp List.all_takeWhile, ?_⟩
      change text = text.takeWhile Text.isBlank ++ (a :: b :: c :: '=' :: rest)
      rw [← hStart, Text.trimStart, List.takeWhile_append_dropWhile]
    · cases h
  · rintro ⟨blanks, tag, rest, hBlanks, rfl⟩
    have hStart : Text.trimStart (tag.chars ++ '=' :: rest) = tag.chars ++ '=' :: rest :=
      (Text.trimStart_eq_self_iff _).mpr (tag.head?_not_isBlank _)
    obtain ⟨a, b, c, hChars, ha, hb, hc⟩ := tag.exists_chars
    rw [startsLanguage, Text.trimStart_append_of_isBlank hBlanks, hStart, hChars]
    simp [ha, hb, hc]

/-- What follows a text does not make a language start in it if it needs a comma to reach an equals
sign. -/
theorem startsLanguage_append {left right : List Char}
    (h : ∀ before after, right = before ++ '=' :: after → ',' ∈ before) :
    StartsLanguage (left ++ right) ↔ StartsLanguage left := by
  constructor
  · rintro ⟨blanks, tag, rest, hBlanks, hText⟩
    have hComma : ',' ∉ blanks ++ tag.chars := by
      rw [List.mem_append, not_or]
      refine ⟨fun hMem => ?_, tag.not_mem (by decide)⟩
      have hBlank : Text.isBlank ',' = true := hBlanks ',' hMem
      exact absurd hBlank (by decide)
    rw [← List.append_assoc, List.append_eq_append_iff] at hText
    rcases hText with ⟨before, hBefore, hRight⟩ | ⟨piece, hLeft, hPiece⟩
    · have hMem := h before rest hRight
      rw [hBefore] at hComma
      exact absurd (List.mem_append_right left hMem) hComma
    · cases piece with
      | nil => exact absurd (h [] rest hPiece.symm) (by simp)
      | cons c piece =>
          obtain ⟨rfl, -⟩ := List.cons.inj hPiece
          exact ⟨blanks, tag, piece, hBlanks, by rw [hLeft, List.append_assoc]⟩
  · rintro ⟨blanks, tag, rest, hBlanks, rfl⟩
    exact ⟨blanks, tag, rest ++ right, hBlanks, by simp⟩

/-- Either no language starts behind a comma, and the whole text stays, or the text is cut at a
comma. -/
theorem beforeNextLanguage_cases (text : List Char) :
    (beforeNextLanguage text = text ∧ ¬ MentionsLanguage text) ∨
      ∃ rest, text = beforeNextLanguage text ++ ',' :: rest ∧ StartsLanguage rest := by
  induction text with
  | nil => exact .inl ⟨rfl, by rintro ⟨before, rest, hText, -⟩; simp at hText⟩
  | cons c text ih =>
      rw [beforeNextLanguage]
      split
      · next hCut =>
        simp only [Bool.and_eq_true, decide_eq_true_eq] at hCut
        obtain ⟨rfl, hStarts⟩ := hCut
        exact .inr ⟨text, rfl, (startsLanguage_iff text).mp hStarts⟩
      · next hStay =>
        rcases ih with ⟨hWhole, hNone⟩ | ⟨rest, hText, hRest⟩
        · refine .inl ⟨by rw [hWhole], ?_⟩
          rintro ⟨before, rest, hBefore, hRest⟩
          cases before with
          | nil =>
              obtain ⟨rfl, rfl⟩ := List.cons.inj hBefore
              exact hStay (by simp [(startsLanguage_iff _).mpr hRest])
          | cons d before =>
              exact hNone ⟨before, rest, (List.cons.inj hBefore).2, hRest⟩
        · exact .inr ⟨rest, by rw [List.cons_append, ← hText], hRest⟩

theorem mem_of_mem_beforeNextLanguage {text : List Char} {c : Char}
    (h : c ∈ beforeNextLanguage text) : c ∈ text := by
  rcases beforeNextLanguage_cases text with ⟨hWhole, -⟩ | ⟨rest, hText, -⟩
  · rwa [hWhole] at h
  · rw [hText]
    exact List.mem_append_left _ h

/-- A text followed by another is cut where it is cut alone, or else in what follows it. -/
theorem beforeNextLanguage_append {right : List Char}
    (h : ∀ before after, right = before ++ '=' :: after → ',' ∈ before) (left : List Char) :
    beforeNextLanguage (left ++ right) = beforeNextLanguage left ∨
      beforeNextLanguage (left ++ right) = beforeNextLanguage left ++ beforeNextLanguage right := by
  induction left with
  | nil => exact .inr rfl
  | cons c left ih =>
      have hStarts : startsLanguage (left ++ right) = startsLanguage left := by
        rw [Bool.eq_iff_iff, startsLanguage_iff, startsLanguage_iff]
        exact startsLanguage_append h
      rw [List.cons_append, beforeNextLanguage, beforeNextLanguage, hStarts]
      split
      · exact .inl rfl
      · rcases ih with hLeft | hRight
        · exact .inl (by rw [hLeft])
        · exact .inr (by rw [hRight, List.cons_append])

/-- What follows a text does not show in its first caption if only blanks are left of it. -/
theorem trim_beforeNextLanguage_append {right : List Char}
    (h : ∀ before after, right = before ++ '=' :: after → ',' ∈ before)
    (hBlanks : ∀ c ∈ beforeNextLanguage right, Text.isBlank c = true) (left : List Char) :
    Text.trim (beforeNextLanguage (left ++ right)) = Text.trim (beforeNextLanguage left) := by
  rcases beforeNextLanguage_append h left with hLeft | hRight
  · rw [hLeft]
  · rw [hRight, Text.trim_append_blanks hBlanks]

/-- Blanks taken off behind the value do not matter to its first caption. -/
theorem trim_beforeNextLanguage_trimEnd (text : List Char) :
    Text.trim (beforeNextLanguage (Text.trimEnd text)) = Text.trim (beforeNextLanguage text) := by
  obtain ⟨back, hText, hBack⟩ := Text.exists_trimEnd text
  have hNoSign : ∀ before after, back = before ++ '=' :: after → ',' ∈ before := by
    rintro before after rfl
    have hBlank : Text.isBlank '=' = true := hBack '=' (by simp)
    exact absurd hBlank (by decide)
  have hTrim := trim_beforeNextLanguage_append hNoSign
    (fun c hc => hBack c (mem_of_mem_beforeNextLanguage hc)) (Text.trimEnd text)
  rw [← hText] at hTrim
  exact hTrim.symm

theorem filter_writtenChar (c : Char) :
    (writtenChar c).filter (· != '\'') = [c].filter (· != '\'') := by
  by_cases hQuote : c = '\''
  · subst hQuote
    rfl
  · rw [writtenChar, if_neg hQuote]

/-- Without apostrophes, a literal is the caption without apostrophes. -/
theorem filter_literal (caption : List Char) :
    (literal caption).filter (· != '\'') = caption.filter (· != '\'') := by
  have hWritten : (written caption).filter (· != '\'') = caption.filter (· != '\'') := by
    induction caption with
    | nil => rfl
    | cons c caption ih =>
        rw [written_cons, List.filter_append, filter_writtenChar, ih, ← List.filter_append,
          List.singleton_append]
  rw [literal, List.cons_append, List.filter_cons_of_neg (by decide), List.filter_append, hWritten]
  simp

theorem filter_translation (translation : Translation) :
    translation.text.filter (· != '\'') =
      translation.tag.chars ++ '=' :: translation.caption.filter (· != '\'') := by
  rw [Translation.text, List.filter_append, Text.filter_bne (translation.tag.not_mem (by decide)),
    List.filter_cons_of_pos (by decide), filter_literal]

/-- The languages behind the first do not show in its caption, whatever it holds. -/
theorem trim_beforeNextLanguage_others (caption : List Char) (others : List Translation) :
    Text.trim (beforeNextLanguage (caption ++
        (others.flatMap fun other => ',' :: other.text).filter (· != '\''))) =
      Text.trim (beforeNextLanguage caption) := by
  cases others with
  | nil =>
      rw [List.flatMap_nil, List.filter_nil, List.append_nil]
  | cons other others =>
      obtain ⟨tail, hOthers⟩ : ∃ tail,
          ((other :: others).flatMap fun other => ',' :: other.text).filter (· != '\'') =
            ',' :: (other.tag.chars ++ '=' :: tail) := by
        rw [List.flatMap_cons, List.filter_append, List.filter_cons_of_pos (by decide),
          filter_translation]
        exact ⟨_, by rw [List.cons_append, List.append_assoc, List.cons_append]⟩
      rw [hOthers]
      apply trim_beforeNextLanguage_append
      · intro before after hText
        cases before with
        | nil => simp at hText
        | cons c before =>
            rw [(List.cons.inj hText).1]
            exact List.mem_cons_self
      · have hStarts : startsLanguage (other.tag.chars ++ '=' :: tail) = true :=
          (startsLanguage_iff _).mpr ⟨[], other.tag, tail, by simp, rfl⟩
        rw [beforeNextLanguage, hStarts]
        simp

/-- What the first language gives: its caption without apostrophes, up to the first comma in it that
a language tag follows. -/
theorem ofMultiLanguage_languages (first : Translation) (others : List Translation) :
    ofMultiLanguage (languages first others) =
      Text.trim (beforeNextLanguage (first.caption.filter (· != '\''))) := by
  let body : List Char := first.caption.filter (· != '\'') ++
    (others.flatMap fun other => ',' :: other.text).filter (· != '\'')
  have hBare : Text.stripApostrophes (languages first others) =
      first.tag.chars ++ '=' :: Text.trimEnd body := by
    have hFilter : (languages first others).filter (· != '\'') = first.tag.chars ++ '=' :: body := by
      rw [languages, List.filter_append, filter_translation, List.append_assoc, List.cons_append]
    have hStart : Text.trimStart (first.tag.chars ++ '=' :: body) = first.tag.chars ++ '=' :: body :=
      (Text.trimStart_eq_self_iff _).mpr (first.tag.head?_not_isBlank _)
    rw [Text.stripApostrophes, hFilter, Text.trim, hStart, Text.trimEnd_append_cons (by decide)]
  rw [ofMultiLanguage, hBare, Text.splitFirst?_append (first.tag.not_mem (by decide))]
  exact (trim_beforeNextLanguage_trimEnd body).trans
    (trim_beforeNextLanguage_others _ others)

/-- The two readings of one literal agree exactly on captions without apostrophes and without
anything that starts a language. -/
theorem trim_beforeNextLanguage_eq_iff (caption : List Char) :
    Text.trim (beforeNextLanguage (caption.filter (· != '\''))) = Text.trim caption ↔
      '\'' ∉ caption ∧ ¬ MentionsLanguage caption := by
  constructor
  · intro hEq
    -- Trimming keeps apostrophes and commas, so both sides hold equally many of them.
    have hCount {c : Char} (hFilled : Text.isBlank c = false) :
        (beforeNextLanguage (caption.filter (· != '\''))).count c = caption.count c := by
      rw [← Text.count_trim hFilled, hEq, Text.count_trim hFilled]
    have hQuote : '\'' ∉ caption := by
      rw [← List.count_eq_zero, ← hCount (by decide), List.count_eq_zero]
      intro hMem
      simpa using mem_of_mem_beforeNextLanguage hMem
    refine ⟨hQuote, ?_⟩
    rw [Text.filter_bne hQuote] at hCount
    rcases beforeNextLanguage_cases caption with ⟨-, hNone⟩ | ⟨rest, hCut, -⟩
    · exact hNone
    · have hComma := congrArg (List.count ',') hCut
      rw [List.count_append, hCount (by decide), List.count_cons_self] at hComma
      omega
  · rintro ⟨hQuote, hNone⟩
    rw [Text.filter_bne hQuote]
    rcases beforeNextLanguage_cases caption with ⟨hWhole, -⟩ | ⟨rest, hCut, hRest⟩
    · rw [hWhole]
    · exact absurd ⟨_, rest, hCut, hRest⟩ hNone

/-- A literal under `Caption` gives the caption that it was written from. As the first of the
languages under `CaptionML` it gives that caption without its apostrophes, and only up to the first
comma in it that a language tag follows; the other languages do not matter. So the two agree on the
captions that hold neither of these. -/
theorem resolve_languages (first : Translation) (others : List Translation) (name : String) :
    resolve [⟨"Caption", String.ofList (literal first.caption)⟩] name =
        String.ofList (Text.trim first.caption) ∧
      resolve [⟨"CaptionML", String.ofList (languages first others)⟩] name =
        String.ofList (Text.trim (beforeNextLanguage (first.caption.filter (· != '\'')))) ∧
      (resolve [⟨"CaptionML", String.ofList (languages first others)⟩] name =
          resolve [⟨"Caption", String.ofList (literal first.caption)⟩] name ↔
        '\'' ∉ first.caption ∧ ¬ MentionsLanguage first.caption) := by
  have hCaption := resolve_literal first.caption [] name
  have hLanguages : resolve [⟨"CaptionML", String.ofList (languages first others)⟩] name =
      String.ofList (Text.trim (beforeNextLanguage (first.caption.filter (· != '\'')))) := by
    rw [resolve, Property.lookup?, Property.lookup?]
    simp [ofMultiLanguage_languages]
  refine ⟨hCaption, hLanguages, ?_⟩
  rw [hCaption, hLanguages, String.ofList_inj, trim_beforeNextLanguage_eq_iff]

/-- An apostrophe is lost, and so is what stands behind a comma in front of a word of three letters
and an equals sign. -/
theorem languages_lose_part_of_caption :
    resolve [⟨"Caption", "'Customer''s Name'"⟩] "Name" = "Customer's Name" ∧
      resolve [⟨"CaptionML", "ENU='Customer''s Name'"⟩] "Name" = "Customers Name" ∧
      resolve [⟨"Caption", "'Fee, min=1'"⟩] "Fee" = "Fee, min=1" ∧
      resolve [⟨"CaptionML", "ENU='Fee, min=1'"⟩] "Fee" = "Fee" := by
  decide

end ObjectOutline.Caption
