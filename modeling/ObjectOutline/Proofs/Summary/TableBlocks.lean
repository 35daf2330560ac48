import ObjectOutline.Proofs.Summary.Declaration
import ObjectOutline.Proofs.Summary.FieldLines
import ObjectOutline.Proofs.Written.TableSource

/-! The field names of a table, found in two ways. A summary looks for them line by line, in whatever the
source holds; parsing takes the source apart at its braces and its header lines at their semicolons. On a
table written with a line for each header, brace and caption, both find the names that it was written from,
whatever the names, data types and captions hold, as long as nothing but a field looks like a call of
`field`. -/
namespace ObjectOutline

namespace Caption

theorem lowerAscii_written (caption : List Char) :
    Text.lowerAscii (written caption) = written (Text.lowerAscii caption) := by
  induction caption with
  | nil => rfl
  | cons c rest ih =>
      have hQuote : c.toLower = '\'' ↔ c = '\'' :=
        ⟨fun h => Text.eq_of_toLower_eq h (by decide), fun h => by rw [h]; decide⟩
      have hHead : Text.lowerAscii (writtenChar c) = writtenChar c.toLower := by
        rw [writtenChar, writtenChar]
        by_cases h : c = '\'' <;> simp [h, hQuote, Text.lowerAscii]
      rw [written_cons, Text.lowerAscii, List.map_append, ← Text.lowerAscii, ← Text.lowerAscii, ih, hHead]
      rfl

variable {word : List Char} (hWord : '\'' ∉ word)
include hWord

/-- Doubling apostrophes makes no word that has none. -/
theorem prefix_of_prefix_written {caption : List Char} (h : word <+: written caption) :
    word <+: caption := by
  induction caption generalizing word with
  | nil => exact h
  | cons c rest ih =>
      cases word with
      | nil => exact List.nil_prefix
      | cons w word =>
          rw [List.mem_cons, not_or] at hWord
          rw [written_cons, writtenChar] at h
          split at h
          · exact absurd (List.cons_prefix_cons.mp h).1.symm hWord.1
          · obtain ⟨hHead, hTail⟩ := List.cons_prefix_cons.mp h
            exact List.cons_prefix_cons.mpr ⟨hHead, ih hWord.2 hTail⟩

theorem infix_of_infix_written {caption : List Char} (h : word <:+: written caption) :
    word <:+: caption := by
  induction caption with
  | nil => exact h
  | cons c rest ih =>
      have hQuoted {text : List Char} (hHere : word <+: '\'' :: text) : word <:+: c :: rest := by
        rcases List.prefix_cons_iff.mp hHere with rfl | ⟨tail, rfl, -⟩
        · exact List.nil_infix
        · exact absurd List.mem_cons_self hWord
      rw [written_cons, writtenChar] at h
      split at h
      · rcases List.infix_cons_iff.mp h with hHere | hLater
        · exact hQuoted hHere
        · rcases List.infix_cons_iff.mp hLater with hHere | hLater
          · exact hQuoted hHere
          · exact List.infix_cons (ih hLater)
      · next hQuote =>
        rcases List.infix_cons_iff.mp h with hHere | hLater
        · have hWritten : written (c :: rest) = c :: written rest := by
            rw [written_cons, writtenChar, if_neg hQuote]
            rfl
          exact (prefix_of_prefix_written hWord (hWritten ▸ hHere)).isInfix
        · exact List.infix_cons (ih hLater)

omit hWord in
/-- A caption looks like a call in its literal only if it looks like one by itself. -/
theorem hasFieldCall_written {caption : List Char} (h : Summary.HasFieldCall (written caption)) :
    Summary.HasFieldCall caption := by
  rw [Summary.HasFieldCall, lowerAscii_written] at h
  exact infix_of_infix_written (by decide) h

end Caption

namespace Written

open Summary (HasFieldCall hasFieldCall_append_cons not_hasFieldCall_of_not_mem)

/-- The indentation of the three lines of a block: its header, its opening and its closing brace. -/
structure Margins where
  header : Indent
  opening : Indent
  closing : Indent

/-- A block of lines with this indentation. -/
def Margins.frame (margins : Margins) (header : HeaderLine) (properties : List PropertyLine) : Frame :=
  ⟨[], margins.header, header, margins.opening, properties, margins.closing⟩

/-- A field: its header line, and a block with its caption. -/
structure FieldBlock where
  number : Nat
  name : SymbolName
  dataType : DataType
  caption : List Char
  noLineFeed : '\n' ∉ caption
  margins : Margins
  captionIndent : Indent

/-- A key: its header line with the names of its fields, and an empty block. -/
structure KeyBlock where
  name : SymbolName
  fieldNames : List SymbolName
  margins : Margins

/-- A table with its fields and its keys. -/
structure TableBlock where
  id : UInt32
  name : SymbolName
  fields : List FieldBlock
  keys : List KeyBlock
  margins : Margins
  fieldsMargins : Margins
  keysMargins : Margins

/-- A quoted name and what stands around it are apart. -/
theorem QuotedName.hasFieldCall_around (name : QuotedName) (front back : List Char) :
    HasFieldCall (front ++ (name.text ++ back)) ↔
      HasFieldCall front ∨ HasFieldCall name.chars ∨ HasFieldCall back := by
  have hQuote : '"'.toLower ∉ Summary.fieldCall := by decide
  have hText : front ++ (name.text ++ back) = front ++ '"' :: (name.chars ++ '"' :: back) := by
    simp [text]
  rw [hText, hasFieldCall_append_cons hQuote, hasFieldCall_append_cons hQuote]

namespace FieldBlock

variable (field : FieldBlock)

def argumentText : List Char :=
  Nat.toDigits 10 field.number ++ ';' :: (' ' :: field.name.text ++ ';' :: (' ' :: field.dataType.chars))

/-- `field(number; "name"; type)` -/
def header : HeaderLine :=
  .parameterized ⟨['f', 'i', 'e', 'l', 'd'], Eq.refl true⟩
    ⟨field.argumentText, noLineFeed_fieldArguments field.number field.name field.dataType,
      isQuiet_fieldArguments field.number field.name field.dataType⟩

/-- `Caption = 'caption';` -/
def captionLine : PropertyLine where
  fillers := []
  indent := field.captionIndent
  name := ⟨['C', 'a', 'p', 't', 'i', 'o', 'n'], Eq.refl true⟩
  value :=
    { chars := Caption.literal field.caption
      noLineFeed := Caption.noLineFeed_literal field.noLineFeed
      quiet := Caption.isQuiet_literal field.noLineFeed
      trimmed := Caption.trim_literal field.caption }

def frame : Frame :=
  field.margins.frame field.header [field.captionLine]

/-- The parser finds the name in the header of the region. -/
theorem name_toTableField (offset : Nat) (children : List Region) :
    (field.frame.region offset children).toTableField.name = String.ofList field.name.chars := by
  have hSplit := field.name.splitField_arguments field.number field.dataType.noQuote
  have hKeyword : (field.frame.region offset children).isKeyword "field" = true :=
    show Text.sameWord "field" "field" = true by decide
  have hName : (field.frame.region offset children).nameText.toList =
      Text.stripQuotes field.argumentText := String.toList_ofList
  rw [Region.toTableField, hKeyword, if_pos rfl, hName, argumentText, hSplit]

/-- The summary finds it on the header line. -/
theorem fieldName?_header :
    field.header.fieldName? = some (String.ofList field.name.chars) := by
  have hDigits := Text.not_mem_toDigits (show ';'.isDigit = false by decide) field.number
  have hNameText : ';' ∉ ' ' :: field.name.text := by
    simp [QuotedName.text, field.name.noSemicolon]
  have hPieces : (Text.splitAll ';' field.argumentText)[1]? = some (' ' :: field.name.text) := by
    rw [argumentText, Text.splitAll_append, Text.splitAll_of_not_mem hDigits, Text.splitAll_append,
      Text.splitAll_of_not_mem hNameText]
    rfl
  have hName := Summary.fieldName?_call
    (noLineFeed_fieldArguments field.number field.name field.dataType)
  rw [← argumentText, hPieces, Option.map_some] at hName
  have hUnquoted : Text.stripQuotes (' ' :: field.name.text) = field.name.chars := by
    rw [Text.stripQuotes, List.filter_cons_of_pos (by decide), field.name.filter_text, Text.trim_space_cons,
      field.name.trimmed]
  rw [Arguments.unquoted, hUnquoted] at hName
  exact hName

/-- A caption line is silent when the caption does not look like a call. -/
theorem isSilent_frame (h : ¬HasFieldCall field.caption) : field.frame.IsSilent where
  fillers := by simp [frame, Margins.frame]
  propertyFillers := by simp [frame, Margins.frame, captionLine]
  properties := by
    have hQuote : '\''.toLower ∉ Summary.fieldCall := by decide
    have hLine : field.captionLine.line = ['C', 'a', 'p', 't', 'i', 'o', 'n', ' ', '=', ' '] ++
        '\'' :: (Caption.written field.caption ++ '\'' :: [';']) := by
      simp [PropertyLine.line, captionLine, Caption.literal]
    simp only [frame, Margins.frame, List.mem_singleton, forall_eq]
    apply Summary.fieldName?_of_not_hasFieldCall
    rw [hLine, hasFieldCall_append_cons hQuote, hasFieldCall_append_cons hQuote, not_or, not_or]
    exact ⟨not_hasFieldCall_of_not_mem (by decide), fun hCall => h (Caption.hasFieldCall_written hCall),
      not_hasFieldCall_of_not_mem (by decide)⟩

end FieldBlock

namespace KeyBlock

variable (key : KeyBlock)

/-- The field names, quoted and with commas between them. -/
def fieldList : List Char :=
  [',', ' '].intercalate (key.fieldNames.map fun field => field.text)

def argumentText : List Char :=
  key.name.text ++ ';' :: (' ' :: key.fieldList)

theorem isQuiet_argumentText : Text.IsQuiet key.argumentText := by
  have hSeparator : Mode.code.Passes [';', ' '] .code := ⟨rfl, rfl⟩
  have hList := passes_nameList (fun field : SymbolName => field.toQuotedName) key.fieldNames
  exact Text.isQuiet_of_passes (key.name.passes.append (hSeparator.append hList)) rfl

theorem noLineFeed_argumentText : '\n' ∉ key.argumentText := by
  have hList := noLineFeed_nameList (fun field : SymbolName => field.toQuotedName) key.fieldNames
  simp only [argumentText, fieldList, List.mem_append, List.mem_cons, key.name.noLineFeed_text, hList,
    or_false, false_or]
  decide

/-- `key("name"; "field", "field")` -/
def header : HeaderLine :=
  .parameterized ⟨['k', 'e', 'y'], Eq.refl true⟩
    ⟨key.argumentText, key.noLineFeed_argumentText, key.isQuiet_argumentText⟩

def frame : Frame :=
  key.margins.frame key.header []

/-- Its names do not look like calls of `field`. -/
def NamesNoField : Prop :=
  ¬HasFieldCall key.name.chars ∧ ∀ name ∈ key.fieldNames, ¬HasFieldCall name.chars

theorem not_hasFieldCall_fieldList (h : ∀ name ∈ key.fieldNames, ¬HasFieldCall name.chars) :
    ¬HasFieldCall key.fieldList := by
  have hSeparators : ','.toLower ∉ Summary.fieldCall ∧ ' '.toLower ∉ Summary.fieldCall := by decide
  have hNone : ¬HasFieldCall [] := by decide
  apply @Text.intercalate_induction fun text => ¬HasFieldCall text
  · exact fun _ => hNone
  · intro piece hPiece
    obtain ⟨name, hName, rfl⟩ := List.mem_map.mp hPiece
    have hAround := name.hasFieldCall_around [] []
    rw [List.nil_append, List.append_nil] at hAround
    rw [hAround]
    simp [hNone, h name hName]
  · intro left right hLeft hRight
    have hText : left ++ ([',', ' '] ++ right) = left ++ ',' :: ([] ++ ' ' :: right) := rfl
    rw [hText, hasFieldCall_append_cons hSeparators.1, hasFieldCall_append_cons hSeparators.2]
    simp [hNone, hLeft, hRight]

theorem fieldName?_header (h : key.NamesNoField) : key.header.fieldName? = none := by
  have hClose : ')'.toLower ∉ Summary.fieldCall := by decide
  have hBlank : ' '.toLower ∉ Summary.fieldCall := by decide
  have hText : key.header.text = ['k', 'e', 'y', '('] ++
      (key.name.text ++ ([';'] ++ ' ' :: (key.fieldList ++ ')' :: []))) := by
    simp [header, HeaderLine.text, argumentText]
  apply Summary.fieldName?_of_not_hasFieldCall
  rw [hText, key.name.hasFieldCall_around, hasFieldCall_append_cons hBlank, hasFieldCall_append_cons hClose]
  have hFront : ¬HasFieldCall ['k', 'e', 'y', '('] := by decide
  have hSemicolon : ¬HasFieldCall [';'] := by decide
  have hNone : ¬HasFieldCall [] := by decide
  simp [hFront, hSemicolon, hNone, h.1, key.not_hasFieldCall_fieldList h.2]

end KeyBlock

theorem headers_leaves (frames : List Frame) : (leaves frames).headers = frames.map Frame.header := by
  induction frames with
  | nil => rfl
  | cons frame rest ih =>
      rw [leaves, Regions.headers, ih]
      rfl

theorem isSilent_leaves {frames : List Frame} (h : ∀ frame ∈ frames, frame.IsSilent) :
    (leaves frames).IsSilent := by
  induction frames with
  | nil => simp [leaves, Regions.IsSilent]
  | cons frame rest ih =>
      obtain ⟨hFrame, hRest⟩ := List.forall_mem_cons.mp h
      exact ⟨hFrame, by simp [Regions.IsSilent], ih hRest⟩

/-- A block without properties has no line that could name a field. -/
theorem Margins.isSilent_frame (margins : Margins) (header : HeaderLine) :
    (margins.frame header []).IsSilent where
  fillers := by simp [Margins.frame]
  propertyFillers := by simp [Margins.frame]
  properties := by simp [Margins.frame]

namespace TableBlock

variable (table : TableBlock)

/-- `table id "name"` -/
def header : HeaderLine :=
  TableSource.header ⟨table.id, table.name, [], []⟩

def blocks : Regions :=
  tableBlocks (table.margins.frame table.header [])
    (table.fieldsMargins.frame TableSource.fieldsHeader [])
    (table.keysMargins.frame TableSource.keysHeader [])
    (table.fields.map FieldBlock.frame) (table.keys.map KeyBlock.frame)

def source : List Char :=
  table.blocks.text

/-- The field names that the table was written with. -/
def fieldNames : List String :=
  table.fields.map fun field => String.ofList field.name.chars

/-- Nothing but the fields looks like a call of `field`: not the name of the table, no caption and nothing in
the keys. -/
structure CallsFieldsOnly : Prop where
  name : ¬HasFieldCall table.name.chars
  captions : ∀ field ∈ table.fields, ¬HasFieldCall field.caption
  keys : ∀ key ∈ table.keys, key.NamesNoField

/-- Parsing gives a table with these field names. -/
theorem exists_table_parse :
    ∃ parsed, (Parse.text Region.defaultMaxDepth table.source).object = .table parsed ∧
      parsed.fieldNames = table.fieldNames := by
  have hType : ObjectKind.ofType "table" = .table := by decide
  have hTable : table.header.header.keyword ≠ "field" := show "table" ≠ "field" by decide
  have hNames := map_regions_leaves (fun region => region.toTableField.name) FieldBlock.frame
    (fun field => String.ofList field.name.chars) fun field offset => field.name_toTableField offset []
  obtain ⟨fieldBase, keyBase, hParse⟩ := @parse_tableBlocks (table.margins.frame table.header [])
    (table.fieldsMargins.frame TableSource.fieldsHeader [])
    (table.keysMargins.frame TableSource.keysHeader []) hType hTable rfl rfl
    (table.fields.map FieldBlock.frame) (table.keys.map KeyBlock.frame)
  refine ⟨_, congrArg Parsed.object hParse, ?_⟩
  rw [Table.fieldNames, List.map_map, fieldNames, ← hNames table.fields fieldBase]
  rfl

theorem fieldName?_header (h : ¬HasFieldCall table.name.chars) :
    table.header.fieldName? = none := by
  have hBlank : ' '.toLower ∉ Summary.fieldCall := by decide
  have hNone : ¬HasFieldCall [] := by decide
  have hKeyword : ¬HasFieldCall ['t', 'a', 'b', 'l', 'e'] := by decide
  have hDigits : ¬HasFieldCall (Nat.toDigits 10 table.id.toNat) :=
    not_hasFieldCall_of_not_mem (Text.not_mem_toDigits (by decide) _)
  have hText : table.header.text = ['t', 'a', 'b', 'l', 'e'] ++
      ' ' :: (Nat.toDigits 10 table.id.toNat ++ ' ' :: ([] ++ (table.name.text ++ []))) := by
    simp [header, TableSource.header, HeaderLine.text, HeaderLine.targetClause]
  apply Summary.fieldName?_of_not_hasFieldCall
  rw [hText, hasFieldCall_append_cons hBlank, hasFieldCall_append_cons hBlank,
    table.name.hasFieldCall_around]
  simp [hNone, hKeyword, hDigits, h]

theorem headers_blocks : table.blocks.headers =
    table.header :: TableSource.fieldsHeader :: (table.fields.map FieldBlock.header ++
      TableSource.keysHeader :: table.keys.map KeyBlock.header) := by
  simp only [blocks, tableBlocks, Regions.headers, headers_leaves, List.map_map, List.append_nil,
    List.cons_append]
  rfl

/-- The names on the header lines are those of the fields. -/
theorem filterMap_headers (h : table.CallsFieldsOnly) :
    table.blocks.headers.filterMap HeaderLine.fieldName? = table.fieldNames := by
  have hFields : (table.fields.map FieldBlock.header).filterMap HeaderLine.fieldName? =
      table.fieldNames := by
    have hNames : HeaderLine.fieldName? ∘ FieldBlock.header =
        some ∘ fun field => String.ofList field.name.chars :=
      funext fun field => field.fieldName?_header
    rw [List.filterMap_map, hNames, List.filterMap_eq_map, fieldNames]
  have hKeys : (table.keys.map KeyBlock.header).filterMap HeaderLine.fieldName? = [] := by
    rw [List.filterMap_eq_nil_iff]
    intro header hHeader
    obtain ⟨key, hKey, rfl⟩ := List.mem_map.mp hHeader
    exact key.fieldName?_header (h.keys key hKey)
  have hFieldsHeader : TableSource.fieldsHeader.fieldName? = none :=
    Summary.fieldName?_of_not_hasFieldCall (by decide)
  have hKeysHeader : TableSource.keysHeader.fieldName? = none :=
    Summary.fieldName?_of_not_hasFieldCall (by decide)
  rw [headers_blocks, List.filterMap_cons_none (table.fieldName?_header h.name),
    List.filterMap_cons_none hFieldsHeader, List.filterMap_append, hFields,
    List.filterMap_cons_none hKeysHeader, hKeys, List.append_nil]

theorem isSilent_blocks (h : table.CallsFieldsOnly) : table.blocks.IsSilent := by
  have hFields : ∀ frame ∈ table.fields.map FieldBlock.frame, frame.IsSilent := by
    intro frame hFrame
    obtain ⟨field, hField, rfl⟩ := List.mem_map.mp hFrame
    exact field.isSilent_frame (h.captions field hField)
  have hKeys : ∀ frame ∈ table.keys.map KeyBlock.frame, frame.IsSilent := by
    intro frame hFrame
    obtain ⟨key, -, rfl⟩ := List.mem_map.mp hFrame
    exact key.margins.isSilent_frame key.header
  have hDone : (Regions.done []).IsSilent := by simp [Regions.IsSilent]
  exact ⟨table.margins.isSilent_frame _,
    ⟨table.fieldsMargins.isSilent_frame _, isSilent_leaves hFields,
      table.keysMargins.isSilent_frame _, isSilent_leaves hKeys, hDone⟩, hDone⟩

theorem fieldNames_source (h : table.CallsFieldsOnly) :
    Summary.fieldNames table.source = table.fieldNames := by
  have hNone : Summary.fieldNames [] = [] := rfl
  have hNames := table.blocks.fieldNames_text_append (table.isSilent_blocks h) []
  rwa [List.append_nil, hNone, List.append_nil, table.filterMap_headers h] at hNames

/-- The header line is the declaration that a summary reads. -/
theorem exists_declaration : ∃ name, Summary.declaration? table.source =
    some (['t', 'a', 'b', 'l', 'e'], Nat.toDigits 10 table.id.toNat, name) := by
  have hSplit := HeaderLine.splitNumbered?_text ⟨['t', 'a', 'b', 'l', 'e'], by decide, by decide⟩ table.id
    table.name.toQuotedName none
  have hBefore : (table.margins.frame table.header []).before <+: table.source := by
    rw [source, blocks, tableBlocks, Regions.text, List.append_assoc]
    exact List.prefix_append _ _
  have hLine : table.margins.header.chars ++ table.header.text <+:
      (table.margins.frame table.header []).before := by
    rw [Frame.before]
    exact List.prefix_append _ _
  obtain ⟨more, hText⟩ := hLine.trans hBefore
  obtain ⟨name, hHere, -⟩ := @Summary.declarationHere?_append_of_splitNumbered? _ _ _ _ more hSplit
    (Or.inl (by simp [QuotedName.text]))
  have hDeclared : Summary.declarationHere? table.source =
      some (['t', 'a', 'b', 'l', 'e'], Nat.toDigits 10 table.id.toNat, name) := by
    rw [← hText, List.append_assoc,
      Summary.declarationHere?_blank_append table.margins.header.isBlank_of_mem]
    exact hHere
  exact ⟨name, by rw [Summary.declaration?, hDeclared, Option.some_or]⟩

/-- The summary of such a table and its parse name the same fields, in the same order and as often: those
that it was written with. -/
theorem summary_fields_eq_fieldNames (h : table.CallsFieldsOnly) :
    ∃ summary parsed, Summary.ofText? table.source = some summary ∧
      (Parse.text Region.defaultMaxDepth table.source).object = .table parsed ∧
      summary.fields = parsed.fieldNames ∧ parsed.fieldNames = table.fieldNames := by
  obtain ⟨parsed, hParse, hNames⟩ := table.exists_table_parse
  obtain ⟨name, hDeclaration⟩ := table.exists_declaration
  obtain ⟨summary, hSummary, hFields⟩ := Summary.exists_fields_eq_fieldNames hDeclaration
    (Text.word32?_toDigits table.id) (Or.inl (by decide))
  exact ⟨summary, parsed, hSummary, hParse,
    hFields.trans ((table.fieldNames_source h).trans hNames.symm), hNames⟩

/-- Names, a data type and a caption with parentheses, apostrophes, commas and a semicolon in them. Both
fields have one name, and the name itself looks like a call. -/
def ledgerTable : TableBlock :=
  let margin : Indent := ⟨[' '], by decide, by decide⟩
  let tab : Indent := ⟨['\t'], by decide, by decide⟩
  let margins : Margins := ⟨margin, margin, margin⟩
  { id := 17
    name := ⟨⟨"G/L (Entry)".toList, by decide, by decide, by decide⟩, by decide⟩
    fields :=
      [{ number := 1
         name := ⟨⟨"Field(s), No.".toList, by decide, by decide, by decide⟩, by decide⟩
         dataType := ⟨"Code(20); x)".toList, by decide, by decide, by decide, by decide, by decide, by decide⟩
         caption := " It's field \x7b(".toList
         noLineFeed := by decide
         margins := margins
         captionIndent := margin },
       { number := 2
         name := ⟨⟨"Field(s), No.".toList, by decide, by decide, by decide⟩, by decide⟩
         dataType := ⟨"Text[50]".toList, by decide, by decide, by decide, by decide, by decide, by decide⟩
         caption := "''".toList
         noLineFeed := by decide
         margins := margins
         captionIndent := tab }]
    keys :=
      [{ name := ⟨⟨"Primary".toList, by decide, by decide, by decide⟩, by decide⟩
         fieldNames := [⟨⟨"No., (a)".toList, by decide, by decide, by decide⟩, by decide⟩]
         margins := margins }]
    margins := ⟨tab, margin, tab⟩
    fieldsMargins := margins
    keysMargins := margins }

/-- The source of the table. -/
def ledgerText : String :=
  "\ttable 17 \"G/L (Entry)\"\n \x7b\n fields\n \x7b\n" ++
    " field(1; \"Field(s), No.\"; Code(20); x))\n \x7b\n Caption = ' It''s field \x7b(';\n \x7d\n" ++
    " field(2; \"Field(s), No.\"; Text[50])\n \x7b\n\tCaption = '''''';\n \x7d\n \x7d\n" ++
    " keys\n \x7b\n key(\"Primary\"; \"No., (a)\")\n \x7b\n \x7d\n \x7d\n\t\x7d\n"

theorem summary_fields_eq_fieldNames_ledgerTable :
    ledgerTable.CallsFieldsOnly ∧ ∃ summary parsed,
      Summary.ofText? ledgerText.toList = some summary ∧
      (Parse.text Region.defaultMaxDepth ledgerText.toList).object = .table parsed ∧
      summary.fields = ["Field(s), No.", "Field(s), No."] ∧
      parsed.fieldNames = ["Field(s), No.", "Field(s), No."] := by
  have hSource : ledgerText.toList = ledgerTable.source := by decide +kernel
  have hCaptions : ∀ field ∈ ledgerTable.fields, ¬HasFieldCall field.caption := by decide +kernel
  have hKeys : ∀ key ∈ ledgerTable.keys,
      ¬HasFieldCall key.name.chars ∧ ∀ name ∈ key.fieldNames, ¬HasFieldCall name.chars := by
    decide +kernel
  have hCalls : ledgerTable.CallsFieldsOnly := ⟨by decide +kernel, hCaptions, hKeys⟩
  obtain ⟨summary, parsed, hSummary, hParse, hFields, hNames⟩ :=
    ledgerTable.summary_fields_eq_fieldNames hCalls
  rw [← hSource] at hSummary hParse
  exact ⟨hCalls, summary, parsed, hSummary, hParse, hFields.trans hNames, hNames⟩

end TableBlock

end Written

end ObjectOutline
