import Mathlib.Data.List.Basic
import ObjectOutline.Proofs.Written.HeaderLine

/-! Numbered header lines in all their spellings. Between the parts of the line there are blanks of any kind
and number, an id may start with zeros, a name is quoted or one bare word, and the word of the clause may be
in any letter case. Classifying the line gives back its parts, as long as the id fits 32 bits. -/
namespace ObjectOutline.Written

/-- The blanks between two parts of a line. -/
structure Gap extends Indent where
  nonempty : chars ≠ []

theorem Gap.isBlank (gap : Gap) : gap.chars ≠ [] ∧ ∀ c ∈ gap.chars, Text.isBlank c = true :=
  ⟨gap.nonempty, gap.toIndent.isBlank_of_mem⟩

/-- A name as it is written. A quoted one may be empty, and may have blanks at its ends. -/
inductive WrittenName where
  | quoted (chars : List Char) (noQuote : '"' ∉ chars) (noLineFeed : '\n' ∉ chars)
  | bare (chars : List Char) (nonempty : chars ≠ [])
    (plain : ∀ c ∈ chars, Text.isBlank c = false ∧ c ≠ '"')

namespace WrittenName

def text : WrittenName → List Char
  | quoted chars _ _ => '"' :: chars ++ ['"']
  | bare chars _ _ => chars

/-- The name without its quotes, trimmed. -/
def value : WrittenName → List Char
  | quoted chars _ _ => Text.trim chars
  | bare chars _ _ => chars

theorem text_ne_nil (name : WrittenName) : name.text ≠ [] := by
  cases name with
  | quoted chars noQuote noLineFeed => exact List.cons_ne_nil _ _
  | bare chars nonempty plain => exact nonempty

theorem trim_text (name : WrittenName) : Text.trim name.text = name.text := by
  cases name with
  | quoted chars noQuote noLineFeed =>
      have hQuote : Text.trim ['"'] = ['"'] := by decide
      exact Text.trim_between hQuote (List.cons_ne_nil _ _) hQuote (List.cons_ne_nil _ _) chars
  | bare chars nonempty plain => exact Text.trim_of_not_isBlank fun c hc => (plain c hc).1

theorem not_isBlank_head (name : WrittenName) : ∀ c ∈ name.text.head?, Text.isBlank c = false :=
  ((Text.trim_eq_self_iff _).mp name.trim_text).1

theorem noLineFeed_text (name : WrittenName) : '\n' ∉ name.text := by
  cases name with
  | quoted chars noQuote noLineFeed => simp [text, noLineFeed]
  | bare chars nonempty plain => exact fun hFeed => absurd (plain '\n' hFeed).1 (by decide)

theorem stripQuotes_text (name : WrittenName) : Text.stripQuotes name.text = name.value := by
  cases name with
  | quoted chars noQuote noLineFeed =>
      rw [text, Text.stripQuotes, List.cons_append, List.filter_cons_of_neg (by decide),
        List.filter_append, Text.filter_bne noQuote]
      simp [value]
  | bare chars nonempty plain =>
      rw [text, Text.stripQuotes, Text.filter_bne fun hQuote => (plain '"' hQuote).2 rfl]
      exact (bare chars nonempty plain).trim_text

/-- A name is read off what follows it, if that starts with a blank. -/
theorem splitName?_append (name : WrittenName) {rest : List Char}
    (hRest : ∀ c ∈ rest.head?, Text.isBlank c = true) :
    Header.splitName? (name.text ++ rest) = some (name.text, rest) := by
  cases name with
  | quoted chars noQuote noLineFeed =>
      have hSplit := Header.splitName?_append noQuote rest
      rwa [← List.cons_append, List.append_cons] at hSplit
  | bare chars nonempty plain =>
      obtain ⟨c, word, rfl⟩ := List.exists_cons_of_ne_nil nonempty
      obtain ⟨hHead, hWord⟩ := List.forall_mem_cons.mp plain
      have hBare : ∀ d ∈ word, (!Text.isBlank d && d != '"') = true := by
        intro d hd
        simp [(hWord d hd).1, (hWord d hd).2]
      have hStop : ∀ d ∈ rest.head?, (!Text.isBlank d && d != '"') = false := by
        intro d hd
        simp [hRest d hd]
      rw [text, List.cons_append, Header.splitName?, if_neg hHead.2]
      simp [hHead.1, hHead.2, Text.takeWhile_append_eq_left hBare hStop,
        Text.dropWhile_append_eq_right hBare hStop]

end WrittenName

/-- A clause behind the name of an object, and the blanks in front of it. -/
structure Clause where
  front : Gap
  word : List Char
  isExtends : Text.lowerAscii word = ['e', 'x', 't', 'e', 'n', 'd', 's']
  back : Gap
  target : WrittenName

def Clause.text (clause : Clause) : List Char :=
  clause.front.chars ++ (clause.word ++ (clause.back.chars ++ clause.target.text))

theorem Clause.noLineFeed_text (clause : Clause) : '\n' ∉ clause.text := by
  have hWord : '\n' ∉ clause.word := by
    intro hFeed
    have hLower := List.mem_map_of_mem hFeed (f := Char.toLower)
    rw [← Text.lowerAscii, clause.isExtends] at hLower
    exact absurd hLower (by decide)
  simp [text, clause.front.noLineFeed, hWord, clause.back.noLineFeed, clause.target.noLineFeed_text]

/-- A numbered header line. -/
structure NumberedLine where
  indent : Indent
  keyword : Word
  front : Gap
  digits : List Char
  filled : digits ≠ []
  decimal : ∀ c ∈ digits, c.isDigit = true
  back : Gap
  name : WrittenName
  clause : Option Clause
  trail : Indent

namespace NumberedLine

/-- What stands behind the blanks behind the id. -/
def declared (line : NumberedLine) : List Char :=
  line.name.text ++ (line.clause.map Clause.text).getD []

/-- The line without the blanks around it. -/
def content (line : NumberedLine) : List Char :=
  line.keyword.chars ++ (line.front.chars ++ (line.digits ++ (line.back.chars ++ line.declared)))

def text (line : NumberedLine) : List Char :=
  line.indent.chars ++ (line.content ++ line.trail.chars)

variable (line : NumberedLine)

theorem noLineFeed_declared : '\n' ∉ line.declared := by
  rw [declared, List.mem_append, not_or]
  refine ⟨line.name.noLineFeed_text, ?_⟩
  cases line.clause with
  | none => exact List.not_mem_nil
  | some clause => exact clause.noLineFeed_text

theorem not_isBlank_head_declared : ∀ c ∈ line.declared.head?, Text.isBlank c = false := by
  rw [declared, List.head?_append_of_ne_nil _ line.name.text_ne_nil]
  exact line.name.not_isBlank_head

/-- The line ends with a name: that of the object, or that of the target. -/
theorem exists_last_name : ∃ (before : List Char) (last : WrittenName),
    line.declared = before ++ last.text := by
  rw [declared]
  cases line.clause with
  | none => exact ⟨[], line.name, List.append_nil _⟩
  | some clause =>
      refine ⟨line.name.text ++ (clause.front.chars ++ (clause.word ++ clause.back.chars)),
        clause.target, ?_⟩
      simp [Clause.text]

theorem trim_content : Text.trim line.content = line.content := by
  obtain ⟨before, last, hDeclared⟩ := line.exists_last_name
  have hTrim := Text.trim_between line.keyword.toIdentifier.trim_chars line.keyword.nonempty
    last.trim_text last.text_ne_nil
    (line.front.chars ++ (line.digits ++ (line.back.chars ++ before)))
  rw [content, hDeclared]
  simpa [Word.toIdentifier] using hTrim

theorem trim_text : Text.trim line.text = line.content := by
  rw [text, Text.trim_append_of_isBlank line.indent.isBlank_of_mem,
    Text.trim_append_blanks line.trail.isBlank_of_mem, line.trim_content]

/-- The name and the target are told apart, whatever the name is made of. -/
theorem splitExtends?_declared :
    Header.splitExtends? line.declared =
      line.clause.map fun clause => (line.name.text, clause.target.text) := by
  rw [declared]
  cases line.clause with
  | none => exact Header.splitExtends?_of_name (line.name.splitName?_append fun c hc => nomatch hc)
  | some clause =>
      have hBlank : ∀ c ∈ clause.text.head?, Text.isBlank c = true := by
        rw [Clause.text, List.head?_append_of_ne_nil _ clause.front.nonempty]
        exact fun c hc => clause.front.isBlank.2 c (List.mem_of_mem_head? hc)
      exact Header.splitExtends?_of_clause (line.name.splitName?_append hBlank) clause.front.isBlank
        clause.isExtends clause.back.isBlank clause.target.text_ne_nil clause.target.not_isBlank_head

theorem word32?_digits :
    Text.word32? line.digits =
      if Text.digitsValue line.digits < UInt32.size then some (UInt32.ofNat (Text.digitsValue line.digits))
      else none := by
  have hDigits : line.digits.all Char.isDigit = true := List.all_eq_true.mpr line.decimal
  rw [Text.word32?, if_neg (by simp [line.filled, hDigits])]

/-- A numbered line is classified as what it was written from. Without a clause there is no target, whatever
the name is made of. A line whose id does not fit is kept as it stands, without the blanks around it. -/
theorem classify_numbered :
    Header.classify line.text =
      if Text.digitsValue line.digits < UInt32.size then
        { keyword := String.ofList (Text.lowerAscii line.keyword.chars)
          id := some (UInt32.ofNat (Text.digitsValue line.digits))
          name := some (String.ofList line.name.value)
          objectType := String.ofList (Text.lowerAscii line.keyword.chars)
          target := line.clause.map fun clause => String.ofList clause.target.value
          shape := .numbered }
      else
        { keyword := String.ofList (Text.trim line.text)
          id := none
          name := none
          objectType := ""
          target := none
          shape := .invalidId } := by
  have hSplit : Header.splitNumbered? line.content =
      some (line.keyword.chars, line.digits, line.declared) :=
    Header.splitNumbered?_append ⟨line.keyword.nonempty, line.keyword.isAlpha_of_mem⟩
      line.front.isBlank ⟨line.filled, line.decimal⟩ line.back.isBlank
      line.not_isBlank_head_declared line.noLineFeed_declared
  rw [Header.classify, line.trim_text, hSplit]
  dsimp only
  rw [Header.ofNumbered, line.word32?_digits]
  by_cases hFits : Text.digitsValue line.digits < UInt32.size
  · rw [if_pos hFits, if_pos hFits, line.splitExtends?_declared, declared]
    cases line.clause with
    | none => simp [line.name.stripQuotes_text]
    | some clause => simp [line.name.stripQuotes_text, clause.target.stripQuotes_text]
  · rw [if_neg hFits, if_neg hFits]
    rfl

/-- A line with a clause, with blanks around it and with the given digits. The name holds the word of the
clause. -/
def extensionLine (digits : List Char) (filled : digits ≠ [])
    (decimal : ∀ c ∈ digits, c.isDigit = true) : NumberedLine :=
  { indent := ⟨"  ".toList, by decide, by decide⟩
    keyword := ⟨"TableExtension".toList, by decide, by decide⟩
    front := ⟨⟨"  ".toList, by decide, by decide⟩, by decide⟩
    digits := digits
    filled := filled
    decimal := decimal
    back := ⟨⟨" ".toList, by decide, by decide⟩, by decide⟩
    name := .quoted "A extends B".toList (by decide) (by decide)
    clause := some
      { front := ⟨⟨"\t".toList, by decide, by decide⟩, by decide⟩
        word := "EXTENDS".toList
        isExtends := by decide
        back := ⟨⟨" ".toList, by decide, by decide⟩, by decide⟩
        target := .quoted " C ".toList (by decide) (by decide) }
    trail := ⟨" ".toList, by decide, by decide⟩ }

/-- An id that starts with zeros, the last id that fits, and the first one that does not. -/
theorem classify_extensionLine :
    Header.classify "  TableExtension  007 \"A extends B\"\tEXTENDS \" C \" ".toList =
      { keyword := "tableextension"
        id := some 7
        name := some "A extends B"
        objectType := "tableextension"
        target := some "C"
        shape := .numbered } ∧
    Header.classify "  TableExtension  4294967295 \"A extends B\"\tEXTENDS \" C \" ".toList =
      { keyword := "tableextension"
        id := some 4294967295
        name := some "A extends B"
        objectType := "tableextension"
        target := some "C"
        shape := .numbered } ∧
    Header.classify "  TableExtension  4294967296 \"A extends B\"\tEXTENDS \" C \" ".toList =
      { keyword := "TableExtension  4294967296 \"A extends B\"\tEXTENDS \" C \""
        id := none
        name := none
        objectType := ""
        target := none
        shape := .invalidId } := by
  have hZeros : "  TableExtension  007 \"A extends B\"\tEXTENDS \" C \" ".toList =
      (extensionLine "007".toList (by decide) (List.all_eq_true.mp rfl)).text := by
    decide +kernel
  have hFits : "  TableExtension  4294967295 \"A extends B\"\tEXTENDS \" C \" ".toList =
      (extensionLine "4294967295".toList (by decide) (List.all_eq_true.mp rfl)).text := by
    decide +kernel
  have hTooLarge : "  TableExtension  4294967296 \"A extends B\"\tEXTENDS \" C \" ".toList =
      (extensionLine "4294967296".toList (by decide) (List.all_eq_true.mp rfl)).text := by
    decide +kernel
  rw [hZeros, hFits, hTooLarge, classify_numbered, classify_numbered, classify_numbered]
  decide +kernel

end NumberedLine
end ObjectOutline.Written
