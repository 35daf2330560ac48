import ObjectOutline.Proofs.Header.Numbered
import ObjectOutline.Proofs.Written.PropertyLine

/-! Header lines as data. A header line is written in one of three forms, and classifying the line
gives back what it was written from: the forms are tried one after another, so each form must also be
refused by the ones before it. No header line is a property, and none shows a brace of code. -/
namespace ObjectOutline

namespace Text

theorem isLetter_of_isAlpha {c : Char} (h : c.isAlpha = true) : isLetter c = true :=
  (isLetter_iff c).mpr (Or.inl h)

/-- A word of ASCII letters is an identifier. -/
theorem isIdentifier_of_isAlpha {word : List Char} (hNonempty : word ≠ [])
    (hLetters : ∀ c ∈ word, c.isAlpha = true) : isIdentifier word = true := by
  cases word with
  | nil => exact absurd rfl hNonempty
  | cons c rest =>
      simp only [isIdentifier, isIdentifierStart, isIdentifierRest, Char.isAlphanum,
        Bool.and_eq_true, List.all_eq_true]
      refine ⟨by simp [hLetters c List.mem_cons_self], ?_⟩
      intro d hd
      simp [hLetters d (List.mem_cons_of_mem _ hd)]

theorem isAlpha_of_isAlpha_toLower {c : Char} (h : c.toLower.isAlpha = true) : c.isAlpha = true := by
  by_cases hUpper : c.isUpper = true
  · have hAlpha : c.isAlpha = (c.isUpper || c.isLower) := rfl
    rw [hAlpha, hUpper, Bool.true_or]
  · have hSame : c.toLower = c := dif_neg fun hRange => hUpper (decide_eq_true hRange)
    rwa [hSame] at h

/-- A single space is enough of a gap. -/
theorem isBlank_space : [' '] ≠ [] ∧ ∀ c ∈ [' '], isBlank c = true :=
  ⟨List.cons_ne_nil _ _, List.all_eq_true.mp rfl⟩

/-- A word of ASCII letters is dropped in whatever letter case it is written. -/
theorem dropWord?_append {word : List Char} (hLetters : ∀ c ∈ lowerAscii word, c.isAlpha = true)
    (rest : List Char) : dropWord? (lowerAscii word) (word ++ rest) = some rest := by
  induction word with
  | nil => rfl
  | cons c word ih =>
      rw [lowerAscii, List.map_cons, List.forall_mem_cons] at hLetters
      have hFold : foldLetter? c = some c.toLower := by
        rw [foldLetter?, if_pos (isAlpha_of_isAlpha_toLower hLetters.1)]
      rw [lowerAscii, List.map_cons, List.cons_append, dropWord?, if_pos hFold]
      exact ih hLetters.2

end Text

namespace Header

/-- The numbered form needs a blank behind its keyword. -/
theorem splitNumbered?_eq_none {name rest : List Char} (hName : ∀ c ∈ name, Text.isBlank c = false)
    (hRest : ∀ c ∈ rest.head?, Text.isBlank c = false ∧ Text.isLetter c = false) :
    splitNumbered? (name ++ rest) = none := by
  have hGap : Text.trimStart ((name ++ rest).dropWhile Text.isLetter) =
      (name ++ rest).dropWhile Text.isLetter := by
    induction name with
    | nil =>
        cases rest with
        | nil => rfl
        | cons c rest =>
            have hHead := hRest c rfl
            simp [Text.trimStart, hHead.1, hHead.2]
    | cons c name ih =>
        rw [List.cons_append, List.dropWhile_cons]
        split
        · exact ih fun d hd => hName d (List.mem_cons_of_mem _ hd)
        · exact Text.trimStart_cons_of_not_isBlank (hName c List.mem_cons_self)
  rw [splitNumbered?, splitKeywordId?]
  simp [hGap]

/-- The keyword, the digits and the rest of a numbered header are read off one after another, with blanks
between them. -/
theorem splitNumbered?_append {keyword front digits back rest : List Char}
    (hKeyword : keyword ≠ [] ∧ ∀ c ∈ keyword, c.isAlpha = true)
    (hFront : front ≠ [] ∧ ∀ c ∈ front, Text.isBlank c = true)
    (hDigits : digits ≠ [] ∧ ∀ c ∈ digits, c.isDigit = true)
    (hBack : back ≠ [] ∧ ∀ c ∈ back, Text.isBlank c = true)
    (hRest : ∀ c ∈ rest.head?, Text.isBlank c = false) (hLine : '\n' ∉ rest) :
    splitNumbered? (keyword ++ (front ++ (digits ++ (back ++ rest)))) =
      some (keyword, digits, rest) := by
  have hBehindDigits : ∀ c ∈ (back ++ rest).head?, c.isDigit = false := by
    obtain ⟨b, blanks, rfl⟩ := List.exists_cons_of_ne_nil hBack.1
    exact Text.forall_mem_head?_cons
      (Text.not_isDigit_of_isBlank (hBack.2 b List.mem_cons_self)) _
  have hKeywordId : splitKeywordId? (keyword ++ (front ++ (digits ++ (back ++ rest)))) =
      some (keyword, digits, back ++ rest) :=
    splitKeywordId?_eq_some_iff.mpr ⟨front, rfl,
      ⟨hKeyword.1, fun c hc => Text.isLetter_of_isAlpha (hKeyword.2 c hc)⟩, hFront, hDigits,
      hBehindDigits⟩
  have hTrim : Text.trimStart (back ++ rest) = rest := by
    rw [Text.trimStart_append_of_isBlank hBack.2]
    exact (Text.trimStart_eq_self_iff rest).mpr hRest
  rw [splitNumbered?, hKeywordId]
  simp [hTrim, hLine, hBack.1]

theorem beforeLastParenthesis?_append {arguments : List Char} (hLine : '\n' ∉ arguments) :
    beforeLastParenthesis? (arguments ++ [')']) = some arguments := by
  have hAll : ∀ c ∈ arguments ++ [')'], (c != '\n') = true := by
    intro c hc
    simp only [bne_iff_ne]
    rintro rfl
    simp [hLine] at hc
  have hTake := Text.takeWhile_append_eq_left hAll (fun c (hc : c ∈ [].head?) => by simp at hc)
  rw [List.append_nil] at hTake
  simp [beforeLastParenthesis?, hTake]

/-- The parameterized form ends with its last parenthesis. -/
theorem splitParameterized?_append {keyword arguments : List Char}
    (hKeyword : Text.isIdentifier keyword = true) (hLine : '\n' ∉ arguments) :
    splitParameterized? (keyword ++ '(' :: (arguments ++ [')'])) = some (keyword, arguments) := by
  have hHead : ∀ c ∈ ('(' :: (arguments ++ [')'])).head?, Text.isIdentifierRest c = false :=
    Text.forall_mem_head?_cons (by decide) _
  rw [splitParameterized?, Text.splitIdentifier?_append hKeyword hHead]
  simp only [Text.trimStart_cons_of_not_isBlank (show Text.isBlank '(' = false by decide),
    beforeLastParenthesis?_append hLine]

/-- A quoted name is read off whatever follows it. -/
theorem splitName?_append {name : List Char} (hQuote : '"' ∉ name) (rest : List Char) :
    splitName? ('"' :: (name ++ '"' :: rest)) = some ('"' :: name ++ ['"'], rest) := by
  have hInside : ∀ c ∈ name, (c != '"') = true := by
    intro c hc
    simp only [bne_iff_ne]
    exact fun h => hQuote (h ▸ hc)
  have hEnd : ∀ c ∈ ('"' :: rest).head?, (c != '"') = false :=
    Text.forall_mem_head?_cons (by decide) _
  rw [splitName?, if_pos rfl, Text.dropWhile_append_eq_right hInside hEnd,
    Text.takeWhile_append_eq_left hInside hEnd]

section

variable {text name : List Char}

/-- Behind the name there is no clause. -/
theorem splitExtends?_of_name (h : splitName? text = some (name, [])) : splitExtends? text = none := by
  rw [splitExtends?, h]
  rfl

/-- Behind the name there is a clause, with blanks around its word. -/
theorem splitExtends?_of_clause {front word back target : List Char}
    (hName : splitName? text = some (name, front ++ (word ++ (back ++ target))))
    (hFront : front ≠ [] ∧ ∀ c ∈ front, Text.isBlank c = true)
    (hWord : Text.lowerAscii word = ['e', 'x', 't', 'e', 'n', 'd', 's'])
    (hBack : back ≠ [] ∧ ∀ c ∈ back, Text.isBlank c = true) (hTarget : target ≠ [])
    (hFilled : ∀ c ∈ target.head?, Text.isBlank c = false) :
    splitExtends? text = some (name, target) := by
  have hLetters : ∀ c ∈ ['e', 'x', 't', 'e', 'n', 'd', 's'], c.isAlpha = true :=
    List.all_eq_true.mp rfl
  have hWordFilled : ∀ c ∈ (word ++ (back ++ target)).head?, Text.isBlank c = false := by
    obtain ⟨c, rest, rfl⟩ := List.exists_cons_of_ne_nil (show word ≠ [] by rintro rfl; cases hWord)
    rw [← hWord] at hLetters
    have hAlpha := Text.isAlpha_of_isAlpha_toLower (hLetters c.toLower List.mem_cons_self)
    exact Text.forall_mem_head?_cons (Text.not_isBlank_of_isLetter (Text.isLetter_of_isAlpha hAlpha)) _
  have hClause : Text.trimStart (front ++ (word ++ (back ++ target))) = word ++ (back ++ target) := by
    rw [Text.trimStart_append_of_isBlank hFront.2]
    exact (Text.trimStart_eq_self_iff _).mpr hWordFilled
  have hBehind : Text.trimStart (back ++ target) = target := by
    rw [Text.trimStart_append_of_isBlank hBack.2]
    exact (Text.trimStart_eq_self_iff _).mpr hFilled
  have hDropped : Text.dropWord? ['e', 'x', 't', 'e', 'n', 'd', 's'] (word ++ (back ++ target)) =
      some (back ++ target) := by
    rw [← hWord]
    exact Text.dropWord?_append (hWord ▸ hLetters) _
  rw [splitExtends?, hName]
  simp [hClause, hDropped, hBehind, hFront.1, hBack.1, hTarget]

end

end Header

namespace Written

/-- A word of ASCII letters. -/
structure Word where
  chars : List Char
  nonempty : chars ≠ []
  letters : chars.all Char.isAlpha = true

theorem Word.isAlpha_of_mem (word : Word) : ∀ c ∈ word.chars, c.isAlpha = true :=
  List.all_eq_true.mp word.letters

def Word.toIdentifier (word : Word) : Identifier :=
  ⟨word.chars, Text.isIdentifier_of_isAlpha word.nonempty word.isAlpha_of_mem⟩

/-- A name that is written in double quotes. -/
structure QuotedName where
  chars : List Char
  noQuote : '"' ∉ chars
  noLineFeed : '\n' ∉ chars
  trimmed : Text.trim chars = chars

/-- The name in its quotes. -/
def QuotedName.text (name : QuotedName) : List Char :=
  '"' :: name.chars ++ ['"']

theorem QuotedName.passes (name : QuotedName) : Mode.code.Passes name.text .code :=
  Mode.passes_quoted name.noQuote name.noLineFeed

theorem QuotedName.noLineFeed_text (name : QuotedName) : '\n' ∉ name.text := by
  simp [QuotedName.text, name.noLineFeed]

theorem QuotedName.filter_text (name : QuotedName) :
    name.text.filter (· != '"') = name.chars := by
  simp [QuotedName.text, Text.filter_bne name.noQuote]

theorem QuotedName.stripQuotes_text (name : QuotedName) :
    Text.stripQuotes name.text = name.chars := by
  rw [Text.stripQuotes, name.filter_text, name.trimmed]

/-- The three forms of a header line. -/
inductive HeaderLine where
  /-- `keyword` -/
  | bare (keyword : Identifier)
  /-- `keyword(arguments)` -/
  | parameterized (keyword : Identifier) (arguments : QuietText)
  /-- `keyword id "name"`, or `keyword id "name" extends "target"` -/
  | numbered (keyword : Word) (id : UInt32) (name : QuotedName) (target : Option QuotedName)

namespace HeaderLine

/-- The `extends` clause, if there is a target. -/
def targetClause : Option QuotedName → List Char
  | none => []
  | some target => [' ', 'e', 'x', 't', 'e', 'n', 'd', 's', ' '] ++ target.text

/-- The line without its indentation. -/
def text : HeaderLine → List Char
  | bare keyword => keyword.chars
  | parameterized keyword arguments => keyword.chars ++ '(' :: (arguments.chars ++ [')'])
  | numbered keyword id name target =>
    keyword.chars ++ ' ' :: (Nat.toDigits 10 id.toNat ++ ' ' :: (name.text ++ targetClause target))

/-- What the line says. Keywords are lower-cased, except that a bare one is kept as it stands; the
arguments lose their quotes. -/
def header : HeaderLine → Header
  | bare keyword =>
    { keyword := String.ofList keyword.chars
      id := none
      name := none
      objectType := ""
      target := none
      shape := .bare }
  | parameterized keyword arguments =>
    { keyword := String.ofList (Text.lowerAscii keyword.chars)
      id := some 0
      name := some (String.ofList (Text.stripQuotes arguments.chars))
      objectType := ""
      target := none
      shape := .parameterized }
  | numbered keyword id name target =>
    { keyword := String.ofList (Text.lowerAscii keyword.chars)
      id := some id
      name := some (String.ofList name.chars)
      objectType := String.ofList (Text.lowerAscii keyword.chars)
      target := target.map fun target => String.ofList target.chars
      shape := .numbered }

/-- Every header line starts with an identifier, and no equals sign follows it. -/
theorem exists_identifier (line : HeaderLine) :
    ∃ name rest, line.text = name ++ rest ∧ Text.isIdentifier name = true ∧
      (∀ c ∈ rest.head?, Text.isIdentifierRest c = false) ∧
      (Text.trimStart rest).head? ≠ some '=' := by
  cases line with
  | bare keyword => exact ⟨keyword.chars, [], by simp [text], keyword.valid, by simp, by decide⟩
  | parameterized keyword arguments =>
      refine ⟨keyword.chars, _, rfl, keyword.valid, ?_, ?_⟩
      · exact Text.forall_mem_head?_cons (by decide) _
      · rw [Text.trimStart_cons_of_not_isBlank (by decide)]
        simp
  | numbered keyword id name target =>
      refine ⟨keyword.chars, _, rfl, keyword.toIdentifier.valid, ?_, ?_⟩
      · exact Text.forall_mem_head?_cons (by decide) _
      · obtain ⟨d, ds, hDigits⟩ := List.exists_cons_of_ne_nil (@Nat.toDigits_ne_nil id.toNat 10)
        have hDigit : d.isDigit = true := by
          apply @Text.isDigit_of_mem_toDigits id.toNat
          rw [hDigits]
          exact List.mem_cons_self
        have hBlank := Text.not_isBlank_of_isIdentifierRest (Text.isIdentifierRest_of_isDigit hDigit)
        rw [Text.trimStart_cons_of_isBlank (by decide), hDigits, List.cons_append,
          Text.trimStart_cons_of_not_isBlank hBlank]
        intro hEquals
        rw [Option.some.inj hEquals] at hDigit
        exact absurd hDigit (by decide)

theorem noLineFeed_targetClause (target : Option QuotedName) : '\n' ∉ targetClause target := by
  cases target with
  | none => simp [targetClause]
  | some target => simp [targetClause, target.noLineFeed_text]

theorem noLineFeed (line : HeaderLine) : '\n' ∉ line.text := by
  cases line with
  | bare keyword => exact keyword.noLineFeed
  | parameterized keyword arguments =>
      simp [text, keyword.noLineFeed, arguments.noLineFeed]
  | numbered keyword id name target =>
      have hKeyword : '\n' ∉ keyword.chars := keyword.toIdentifier.noLineFeed
      have hDigits := Text.not_mem_toDigits (show '\n'.isDigit = false by decide) id.toNat
      simp [text, hKeyword, hDigits, name.noLineFeed_text, noLineFeed_targetClause]

/-- A numbered header ends with a quote. -/
theorem exists_quote (name : QuotedName) (target : Option QuotedName) :
    ∃ front, name.text ++ targetClause target = front ++ ['"'] := by
  cases target with
  | none => exact ⟨'"' :: name.chars, by simp [QuotedName.text, targetClause]⟩
  | some target =>
      refine ⟨name.text ++ ([' ', 'e', 'x', 't', 'e', 'n', 'd', 's', ' '] ++
        '"' :: target.chars), ?_⟩
      simp [targetClause, QuotedName.text]

theorem trim_parameterized (keyword : Identifier) (arguments : List Char) :
    Text.trim (keyword.chars ++ '(' :: (arguments ++ [')'])) =
      keyword.chars ++ '(' :: (arguments ++ [')']) := by
  have hClose : Text.trim [')'] = [')'] := by decide
  exact Text.trim_between keyword.trim_chars keyword.ne_nil hClose (by simp) ('(' :: arguments)

theorem trim_text (line : HeaderLine) : Text.trim line.text = line.text := by
  cases line with
  | bare keyword => exact keyword.trim_chars
  | parameterized keyword arguments => exact trim_parameterized keyword arguments.chars
  | numbered keyword id name target =>
      obtain ⟨front, hFront⟩ := exists_quote name target
      have hQuote : Text.trim ['"'] = ['"'] := by decide
      have hTrim := Text.trim_between keyword.toIdentifier.trim_chars keyword.nonempty hQuote
        (by simp) (' ' :: (Nat.toDigits 10 id.toNat ++ ' ' :: front))
      rw [text, hFront]
      simpa [Word.toIdentifier] using hTrim

theorem text_ne_nil (line : HeaderLine) : line.text ≠ [] := by
  cases line with
  | bare keyword => exact keyword.ne_nil
  | parameterized keyword arguments => simp [text]
  | numbered keyword id name target => simp [text]

/-- No header line is a property. -/
theorem ofLine?_text (line : HeaderLine) : Property.ofLine? line.text = none := by
  obtain ⟨name, rest, hText, hName, hRest, hEquals⟩ := line.exists_identifier
  rw [Property.ofLine?, line.trim_text, hText, Text.splitIdentifier?_append hName hRest]
  dsimp only
  split
  · next after hAfter =>
    rw [hAfter] at hEquals
    exact absurd rfl hEquals
  · rfl

theorem passes_targetClause (target : Option QuotedName) :
    Mode.code.Passes (targetClause target) .code := by
  cases target with
  | none => exact Mode.Passes.nil _
  | some target =>
      have hExtends : Mode.code.Passes [' ', 'e', 'x', 't', 'e', 'n', 'd', 's', ' '] .code :=
        ⟨rfl, rfl⟩
      exact hExtends.append target.passes

/-- A header line shows no brace of code and leaves no block comment open. -/
theorem isQuiet_text (line : HeaderLine) : Text.IsQuiet line.text := by
  cases line with
  | bare keyword => exact Text.isQuiet_of_passes keyword.passes rfl
  | parameterized keyword arguments =>
      have hOpen : Mode.code.Passes ['('] .code := ⟨rfl, rfl⟩
      have hKeyword := keyword.passes.append hOpen
      have hArguments := arguments.quiet.append_singleton ')' (by decide) (by decide) (by decide)
      rw [text, List.append_cons]
      exact Text.IsQuiet.of_passes_append hKeyword hArguments
  | numbered keyword id name target =>
      have hBlank : Mode.code.Passes [' '] .code := ⟨rfl, rfl⟩
      have hKeyword := keyword.toIdentifier.passes
      have hDigits : Mode.code.Passes (Nat.toDigits 10 id.toNat) .code :=
        Mode.passes_of_isPlain fun c hc => Mode.isPlain_of_isIdentifierRest
          (Text.isIdentifierRest_of_isDigit (Text.isDigit_of_mem_toDigits hc))
      have hName := name.passes.append (passes_targetClause target)
      rw [text, List.append_cons, List.append_cons (Nat.toDigits 10 id.toNat)]
      exact Text.isQuiet_of_passes
        ((hKeyword.append hBlank).append ((hDigits.append hBlank).append hName)) rfl

/-- The name and the target of a numbered header are told apart. -/
theorem splitExtends?_append (name : QuotedName) (target : Option QuotedName) :
    Header.splitExtends? (name.text ++ targetClause target) =
      target.map fun target => (name.text, target.text) := by
  have hSplit := Header.splitName?_append name.noQuote (targetClause target)
  rw [← List.cons_append, List.append_cons] at hSplit
  cases target with
  | none => exact Header.splitExtends?_of_name hSplit
  | some target =>
      have hClause : targetClause (some target) =
          [' '] ++ (['e', 'x', 't', 'e', 'n', 'd', 's'] ++ ([' '] ++ target.text)) := rfl
      rw [hClause] at hSplit
      rw [hClause]
      exact Header.splitExtends?_of_clause hSplit Text.isBlank_space rfl Text.isBlank_space
        (List.cons_ne_nil _ _)
        (Text.forall_mem_head?_cons (by decide) _)

/-- The parameterized form is read whatever its arguments are, as long as they stand on one line. -/
theorem classify_parameterized (keyword : Identifier) {arguments : List Char}
    (hLine : '\n' ∉ arguments) :
    Header.classify (keyword.chars ++ '(' :: (arguments ++ [')'])) =
      { keyword := String.ofList (Text.lowerAscii keyword.chars)
        id := some 0
        name := some (String.ofList (Text.stripQuotes arguments))
        objectType := ""
        target := none
        shape := .parameterized } := by
  have hRefused : Header.splitNumbered? (keyword.chars ++ '(' :: (arguments ++ [')'])) = none := by
    apply Header.splitNumbered?_eq_none keyword.not_isBlank
    exact Text.forall_mem_head?_cons (by decide) _
  rw [Header.classify, trim_parameterized, hRefused]
  simp only [Header.splitParameterized?_append keyword.valid hLine]

/-- The numbered form is read off as its three parts. -/
theorem splitNumbered?_text (keyword : Word) (id : UInt32) (name : QuotedName)
    (target : Option QuotedName) :
    Header.splitNumbered? (numbered keyword id name target).text =
      some (keyword.chars, Nat.toDigits 10 id.toNat, name.text ++ targetClause target) := by
  have hQuote : ∀ c ∈ (name.text ++ targetClause target).head?, Text.isBlank c = false :=
    Text.forall_mem_head?_cons (by decide) _
  have hLine : '\n' ∉ name.text ++ targetClause target := by
    simp [name.noLineFeed_text, noLineFeed_targetClause]
  have hSplit := Header.splitNumbered?_append ⟨keyword.nonempty, keyword.isAlpha_of_mem⟩
    Text.isBlank_space ⟨@Nat.toDigits_ne_nil id.toNat 10, fun c => Text.isDigit_of_mem_toDigits⟩
    Text.isBlank_space hQuote hLine
  rwa [List.singleton_append, List.singleton_append] at hSplit

/-- A header line is classified as what it was written from. -/
theorem classify_text (line : HeaderLine) : Header.classify line.text = line.header := by
  cases line with
  | bare keyword =>
      have hRefused := @Header.splitNumbered?_eq_none keyword.chars [] keyword.not_isBlank (by simp)
      have hSplit := @Text.splitIdentifier?_append keyword.chars [] keyword.valid (by simp)
      rw [List.append_nil] at hRefused hSplit
      have hParameters : Header.splitParameterized? keyword.chars = none := by
        rw [Header.splitParameterized?, hSplit]
        rfl
      rw [Header.classify, trim_text]
      simp only [text, hRefused, hParameters, keyword.valid, if_true, header, Header.ofWholeLine]
  | parameterized keyword arguments => exact classify_parameterized keyword arguments.noLineFeed
  | numbered keyword id name target =>
      rw [Header.classify, trim_text, splitNumbered?_text]
      simp only [Header.ofNumbered, Text.word32?_toDigits, splitExtends?_append, header]
      cases target with
      | none => simp [targetClause, name.stripQuotes_text]
      | some target => simp [name.stripQuotes_text, target.stripQuotes_text]

end HeaderLine
end Written
end ObjectOutline
