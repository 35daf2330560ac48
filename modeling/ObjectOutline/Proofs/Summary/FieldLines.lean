import Mathlib.Data.List.Infix
import ObjectOutline.Proofs.Written.Regions
import ObjectOutline.Summary

/-! Lines that name a field. The summary looks for the start of a call of `field` anywhere on a line, so a
line without it names nothing, and a line that starts with it names the second of its arguments, whatever
these hold. The names found in a written source are those on its header lines, as long as nothing else in it
looks like such a call. -/
namespace ObjectOutline

namespace Text

theorem not_isWord_of_isBlank {c : Char} (h : isBlank c = true) : isWord c = false := by
  have hCodes : ∀ n ∈ [0x9, 0xA, 0xB, 0xC, 0xD, 0x20, 0x85, 0xA0, 0x1680, 0x2000, 0x2001, 0x2002, 0x2003,
      0x2004, 0x2005, 0x2006, 0x2007, 0x2008, 0x2009, 0x200A, 0x2028, 0x2029, 0x202F, 0x205F, 0x3000],
      (wordRanges.toList.any fun range => decide (range.1 ≤ n) && decide (n ≤ range.2)) = false := by
    decide +kernel
  rw [isWord, inRanges, ← Array.any_toList]
  apply hCodes
  simp only [isBlank, Bool.or_eq_true, Bool.and_eq_true, decide_eq_true_eq, beq_iff_eq] at h
  simp only [List.mem_cons, List.not_mem_nil, or_false]
  omega

/-- What becomes something else than a letter in lower case is this already. -/
theorem eq_of_toLower_eq {c d : Char} (h : c.toLower = d) (hd : d.isAlpha = false) : c = d := by
  have hCapitals : ∀ n < 91, (Char.ofNat n).isUpper = true → (Char.ofNat n).toLower.isAlpha = true := by
    decide
  by_cases hUpper : c.isUpper = true
  · have hCode : c.toNat < 91 := Nat.lt_succ_of_le (of_decide_eq_true hUpper).2
    have hAlpha := hCapitals c.toNat hCode
    rw [Char.ofNat_toNat, h, hd] at hAlpha
    cases hAlpha hUpper
  · have hSame : c.toLower = c := dif_neg fun hRange => hUpper (decide_eq_true hRange)
    exact hSame.symm.trans h

/-- A word without the two letters that others fold to is dropped where it stands, up to letter case. -/
theorem lowerAscii_of_dropWord? {word text rest : List Char} (h : dropWord? word text = some rest)
    (hWord : 's' ∉ word ∧ 'k' ∉ word) : lowerAscii text = word ++ lowerAscii rest := by
  induction word generalizing text with
  | nil =>
      rw [dropWord?, Option.some.injEq] at h
      rw [h, List.nil_append]
  | cons w word ih =>
      cases text with
      | nil => cases h
      | cons c text =>
          simp only [List.mem_cons, not_or] at hWord
          rw [dropWord?] at h
          split at h
          · next hFold =>
            have hLower : c.toLower = w := by
              rw [foldLetter?] at hFold
              split at hFold
              · exact Option.some.inj hFold
              · split at hFold
                · exact absurd (Option.some.inj hFold) hWord.1.1
                · split at hFold
                  · exact absurd (Option.some.inj hFold) hWord.2.1
                  · cases hFold
            rw [lowerAscii, List.map_cons, hLower, List.cons_append, ← lowerAscii,
              ih h ⟨hWord.1.2, hWord.2.2⟩]
          · cases h

end Text

namespace Summary

/-- A text that does not have the character stands on one side of it. -/
theorem infix_append_cons_iff {word : List Char} {c : Char} (hc : c ∉ word) (left right : List Char) :
    word <:+: left ++ c :: right ↔ word <:+: left ∨ word <:+: right := by
  have hHead (left : List Char) (h : word <+: left ++ c :: right) : word <+: left := by
    have hConcat : left ++ [c] <+: left ++ c :: right := ⟨right, by simp⟩
    rcases List.prefix_or_prefix_of_prefix h hConcat with hShort | hLong
    · rcases List.prefix_concat_iff.mp hShort with rfl | hLeft
      · simp at hc
      · exact hLeft
    · exact absurd (hLong.subset (by simp)) hc
  constructor
  · intro h
    induction left with
    | nil =>
        rcases List.infix_cons_iff.mp h with hHere | hRight
        · exact Or.inl (hHead [] hHere).isInfix
        · exact Or.inr hRight
    | cons d left ih =>
        rcases List.infix_cons_iff.mp h with hHere | hLater
        · exact Or.inl (hHead (d :: left) hHere).isInfix
        · exact (ih hLater).imp_left List.infix_cons
  · rintro (hLeft | hRight)
    · exact hLeft.trans (List.prefix_append _ _).isInfix
    · exact hRight.trans ((List.suffix_cons c right).trans (List.suffix_append left _)).isInfix

/-- How a call of `field` starts, in lower case. -/
def fieldCall : List Char :=
  ['f', 'i', 'e', 'l', 'd', '(']

/-- The start of a call of `field` stands in the text, in whatever letter case. -/
def HasFieldCall (text : List Char) : Prop :=
  fieldCall <:+: Text.lowerAscii text

instance (text : List Char) : Decidable (HasFieldCall text) :=
  inferInstanceAs (Decidable (fieldCall <:+: Text.lowerAscii text))

variable {blanks : List Char}

theorem hasFieldCall_append_cons {c : Char} (hc : c.toLower ∉ fieldCall) (left right : List Char) :
    HasFieldCall (left ++ c :: right) ↔ HasFieldCall left ∨ HasFieldCall right := by
  rw [HasFieldCall, Text.lowerAscii, List.map_append, List.map_cons]
  exact infix_append_cons_iff hc _ _

theorem not_hasFieldCall_of_not_mem {text : List Char} (h : '(' ∉ text) : ¬HasFieldCall text := by
  intro hCall
  have hMem : '(' ∈ Text.lowerAscii text := hCall.subset (by decide)
  obtain ⟨c, hc, hLower⟩ := List.mem_map.mp hMem
  exact h (Text.eq_of_toLower_eq hLower (by decide) ▸ hc)

/-- A text without such a call has no arguments to offer, behind whatever it stands. -/
theorem fieldArguments?_of_not_hasFieldCall {text : List Char} (h : ¬HasFieldCall text) (afterWord : Bool) :
    fieldArguments? afterWord text = none := by
  induction text generalizing afterWord with
  | nil => rfl
  | cons c rest ih =>
      have hParts : ¬fieldCall <+: Text.lowerAscii (c :: rest) ∧ ¬HasFieldCall rest := by
        rw [HasFieldCall, Text.lowerAscii, List.map_cons, List.infix_cons_iff, not_or] at h
        exact h
      rw [fieldArguments?, ih hParts.2, Option.or_none]
      split
      · rfl
      · split
        · next inner hWord =>
          have hLower := Text.lowerAscii_of_dropWord? hWord (by decide)
          exact absurd ⟨Text.lowerAscii inner, hLower.symm⟩ hParts.1
        · rfl

theorem fieldName?_of_not_hasFieldCall {line : List Char} (h : ¬HasFieldCall line) :
    fieldName? line = none := by
  rw [fieldName?, fieldArguments?_of_not_hasFieldCall h]

/-- Blanks in front of a line change nothing: no word starts with them, and none goes on behind them. -/
theorem fieldName?_blank_append (h : ∀ c ∈ blanks, Text.isBlank c = true) (line : List Char) :
    fieldName? (blanks ++ line) = fieldName? line := by
  have hArguments : fieldArguments? false (blanks ++ line) = fieldArguments? false line := by
    induction blanks with
    | nil => rfl
    | cons c blanks ih =>
        obtain ⟨hBlank, hBlanks⟩ := List.forall_mem_cons.mp h
        have hFold : Text.foldLetter? c ≠ some 'f' := by
          intro hFold
          have hLetter : Text.isLetter c = true := by rw [Text.isLetter, hFold]; rfl
          rw [Text.not_isBlank_of_isLetter hLetter] at hBlank
          cases hBlank
        rw [List.cons_append, fieldArguments?, Text.not_isWord_of_isBlank hBlank, ih hBlanks,
          Text.dropWord?, if_neg hFold]
        rfl
  rw [fieldName?, hArguments, fieldName?]

/-- A call that starts a line has everything up to the end of the line for its arguments. -/
theorem fieldName?_call {arguments : List Char} (hLine : '\n' ∉ arguments) :
    fieldName? (['f', 'i', 'e', 'l', 'd'] ++ '(' :: (arguments ++ [')'])) =
      ((Text.splitAll ';' arguments)[1]?).map Arguments.unquoted := by
  have hDropped : Text.dropWord? ['f', 'i', 'e', 'l', 'd']
      (['f', 'i', 'e', 'l', 'd'] ++ '(' :: (arguments ++ [')'])) = some ('(' :: (arguments ++ [')'])) :=
    @Text.dropWord?_append ['f', 'i', 'e', 'l', 'd'] (List.all_eq_true.mp rfl) _
  have hArguments : fieldArguments? false (['f', 'i', 'e', 'l', 'd'] ++ '(' :: (arguments ++ [')'])) =
      some arguments := by
    rw [List.cons_append] at hDropped ⊢
    rw [fieldArguments?, if_neg Bool.false_ne_true, hDropped]
    simp only [Header.beforeLastParenthesis?_append hLine, Option.some_or]
  rw [fieldName?, hArguments]

/-- The names that the summary finds in a text. -/
def fieldNames (text : List Char) : List String :=
  (Text.lines text).filterMap fieldName?

/-- The summary of a table or a page lists these names. -/
theorem exists_fields_eq_fieldNames {text keyword digits name : List Char} {id : UInt32}
    (hDeclaration : declaration? text = some (keyword, digits, name)) (hId : Text.word32? digits = some id)
    (hType : String.ofList (Text.lowerAscii keyword) = "table" ∨
      String.ofList (Text.lowerAscii keyword) = "page") :
    ∃ summary, ofText? text = some summary ∧ summary.fields = fieldNames text := by
  refine ⟨⟨String.ofList (Text.lowerAscii keyword), id, Arguments.unquoted name,
    String.ofList ((pageType? text).getD []), fieldNames text⟩, ?_, rfl⟩
  rw [ofText?, hDeclaration]
  simp only [hId, if_pos hType]
  rfl

theorem fieldNames_line {line : List Char} (h : '\n' ∉ line) (rest : List Char) :
    fieldNames (line ++ '\n' :: rest) = (fieldName? line).toList ++ fieldNames rest := by
  rw [fieldNames, Text.lines_append, Text.lines_of_not_mem h, List.filterMap_append, ← fieldNames]
  cases hName : fieldName? line <;> simp [hName]

/-- A line without such a call names nothing, however far it is indented. -/
theorem fieldNames_silent_line {line : List Char} (hBlanks : ∀ c ∈ blanks, Text.isBlank c = true)
    (h : fieldName? line = none) (hLine : '\n' ∉ blanks ++ line) (rest : List Char) :
    fieldNames (blanks ++ line ++ '\n' :: rest) = fieldNames rest := by
  rw [fieldNames_line hLine, fieldName?_blank_append hBlanks, h]
  rfl

end Summary

namespace Written

/-- The lines between the blocks name no fields. -/
def Filler.IsSilent (filler : Filler) : Prop :=
  Summary.fieldName? filler.chars = none

/-- No line directly inside the block or in front of its header names a field. -/
structure Frame.IsSilent (frame : Frame) : Prop where
  fillers : ∀ filler ∈ frame.fillers, filler.IsSilent
  propertyFillers : ∀ property ∈ frame.properties, ∀ filler ∈ property.fillers, filler.IsSilent
  properties : ∀ property ∈ frame.properties, Summary.fieldName? property.line = none

/-- Fields are named on header lines alone. -/
def Regions.IsSilent : Regions → Prop
  | done fillers => ∀ filler ∈ fillers, filler.IsSilent
  | block frame children rest => frame.IsSilent ∧ children.IsSilent ∧ rest.IsSilent

/-- The name that the summary finds on a header line. -/
def HeaderLine.fieldName? (header : HeaderLine) : Option String :=
  Summary.fieldName? header.text

/-- The header lines of the blocks, each in front of those of the blocks inside. -/
def Regions.headers : Regions → List HeaderLine
  | done _ => []
  | block frame children rest => frame.header :: children.headers ++ rest.headers

theorem fieldNames_fillerLines_append {fillers : List Filler} (h : ∀ filler ∈ fillers, filler.IsSilent)
    (rest : List Char) : Summary.fieldNames (fillerLines fillers ++ rest) = Summary.fieldNames rest := by
  induction fillers with
  | nil => rfl
  | cons filler fillers ih =>
      obtain ⟨hFiller, hFillers⟩ := List.forall_mem_cons.mp h
      rw [fillerLines_cons, List.append_assoc, List.cons_append, Summary.fieldNames_line filler.noLineFeed,
        hFiller, ih hFillers]
      rfl

theorem fieldNames_propertyLines_append {properties : List PropertyLine}
    (hFillers : ∀ property ∈ properties, ∀ filler ∈ property.fillers, filler.IsSilent)
    (h : ∀ property ∈ properties, Summary.fieldName? property.line = none) (rest : List Char) :
    Summary.fieldNames (propertyLines properties ++ rest) = Summary.fieldNames rest := by
  induction properties with
  | nil => rfl
  | cons property properties ih =>
      obtain ⟨hFiller, hFillers⟩ := List.forall_mem_cons.mp hFillers
      obtain ⟨hLine, hLines⟩ := List.forall_mem_cons.mp h
      have hOneLine : '\n' ∉ property.indent.chars ++ property.line := by
        simp [property.indent.noLineFeed, property.line_noLineFeed]
      rw [propertyLines, List.flatMap_cons, List.append_assoc, PropertyLine.text, List.append_assoc,
        fieldNames_fillerLines_append hFiller, List.append_assoc, List.singleton_append,
        Summary.fieldNames_silent_line property.indent.isBlank_of_mem hLine hOneLine, ← propertyLines,
        ih hFillers hLines]

/-- A line with a brace and nothing else. -/
theorem fieldNames_brace_line (indent : Indent) {brace : Char} (hBrace : brace = '{' ∨ brace = '}')
    (rest : List Char) :
    Summary.fieldNames (indent.chars ++ brace :: '\n' :: rest) = Summary.fieldNames rest := by
  have hLine : '\n' ∉ indent.chars ++ [brace] := by
    rcases hBrace with rfl | rfl <;> simp [indent.noLineFeed]
  have hSilent : Summary.fieldName? [brace] = none := by
    apply Summary.fieldName?_of_not_hasFieldCall
    rcases hBrace with rfl | rfl <;> decide
  have hNames := Summary.fieldNames_silent_line indent.isBlank_of_mem hSilent hLine rest
  rwa [List.append_assoc, List.singleton_append] at hNames

/-- The names in a written source are those on its header lines. -/
theorem Regions.fieldNames_text_append (source : Regions) (h : source.IsSilent) (more : List Char) :
    Summary.fieldNames (source.text ++ more) =
      source.headers.filterMap HeaderLine.fieldName? ++ Summary.fieldNames more := by
  induction source generalizing more with
  | done fillers => exact fieldNames_fillerLines_append h more
  | block frame children rest ihChildren ihRest =>
      obtain ⟨hFrame, hChildren, hRest⟩ := h
      -- Line by line: fillers, header, opening brace, properties, children, closing brace.
      have hText : (block frame children rest).text ++ more =
          fillerLines frame.fillers ++ (frame.indent.chars ++ frame.header.text ++ '\n' ::
            (frame.openIndent.chars ++ '{' :: '\n' :: (propertyLines frame.properties ++
              (children.text ++ (frame.closeIndent.chars ++ '}' :: '\n' :: (rest.text ++ more)))))) := by
        simp [text, Frame.before, Frame.body, Frame.inside]
      rw [hText, fieldNames_fillerLines_append hFrame.fillers,
        Summary.fieldNames_line frame.noLineFeed_header,
        Summary.fieldName?_blank_append frame.indent.isBlank_of_mem,
        fieldNames_brace_line _ (Or.inl rfl),
        fieldNames_propertyLines_append hFrame.propertyFillers hFrame.properties, ihChildren hChildren,
        fieldNames_brace_line _ (Or.inr rfl), ihRest hRest, headers, List.cons_append,
        List.filterMap_cons, List.filterMap_append, ← HeaderLine.fieldName?]
      cases frame.header.fieldName? <;> simp

end Written
end ObjectOutline
