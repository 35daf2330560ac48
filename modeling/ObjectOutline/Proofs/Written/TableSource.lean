import ObjectOutline.Parse
import ObjectOutline.Proofs.Symbol.Arguments
import ObjectOutline.Proofs.Symbol.Literal
import ObjectOutline.Proofs.Written.Regions

/-! Tables as data. A table is written as the source that declares it: its fields with number, name,
data type and caption, and its keys with their field names. Parsing the source gives back the table,
whatever the names, types and captions hold that their places in the source allow. -/
namespace ObjectOutline

namespace Region

/-- The table of a region with one block for fields and one for keys. -/
theorem toSymbol_of_table {region fields keys : Region}
    (hType : ObjectKind.ofType region.objectType = .table)
    (hChildren : region.children = [fields, keys]) (hFields : fields.keyword = "fields")
    (hKeys : keys.keyword = "keys") :
    region.toSymbol = .table
      { header := region.objectHeader
        fields := fields.children.map toTableField
        keys := keys.children.map toTableKey
        fieldGroups := [] } := by
  have hFieldsTrue : fields.isKeyword "fields" = true := by rw [isKeyword, hFields]; decide
  have hFieldsFalse : fields.isKeyword "keys" = false := by rw [isKeyword, hFields]; decide
  have hKeysTrue : keys.isKeyword "keys" = true := by rw [isKeyword, hKeys]; decide
  have hKeysFalse : keys.isKeyword "fields" = false := by rw [isKeyword, hKeys]; decide
  rw [toSymbol, hType]
  simp [toTable, hChildren, hFieldsTrue, hFieldsFalse, hKeysTrue, hKeysFalse]

end Region

namespace Written

/-- A name without semicolons, so that it can stand among arguments. -/
structure SymbolName extends QuotedName where
  noSemicolon : ';' ∉ chars

/-- The arguments of a table field are read back, whatever the data type holds besides quotes. -/
theorem SymbolName.splitField_arguments (name : SymbolName) (number : Nat) {dataType : List Char}
    (hQuote : '"' ∉ dataType) :
    Arguments.splitField (Text.stripQuotes
        (Nat.toDigits 10 number ++ ';' :: (' ' :: name.text ++ ';' :: (' ' :: dataType)))) =
      ⟨Nat.repr number, String.ofList name.chars, Arguments.dataType? dataType⟩ := by
  have hDigits := Text.not_mem_toDigits (show '"'.isDigit = false by decide) number
  have hFilter : (Nat.toDigits 10 number ++
      ';' :: (' ' :: name.text ++ ';' :: (' ' :: dataType))).filter (· != '"') =
      Nat.toDigits 10 number ++ ';' :: (' ' :: name.chars ++ ';' :: (' ' :: dataType)) := by
    simp [Text.filter_bne hDigits, name.filter_text, Text.filter_bne hQuote]
  have hFilled : Text.isBlank ';' = false := by decide
  have hType : Arguments.dataType? (Text.trimEnd (' ' :: dataType)) = Arguments.dataType? dataType :=
    Arguments.dataType?_congr ((Text.trim_trimEnd _).trans (Text.trim_space_cons dataType))
  rw [Text.stripQuotes, hFilter, Text.trim_append_cons (Text.trim_toDigits _) hFilled,
    Text.trimEnd_append_cons hFilled,
    Arguments.splitField_append (Text.not_mem_toDigits (by decide) _) (Text.trim_toDigits _)
      name.noSemicolon name.noQuote name.trimmed,
    hType, Nat.repr_eq_ofList_toDigits]

/-- The name of a field in the list of a key. -/
structure KeyFieldName extends SymbolName where
  nonempty : chars ≠ []
  noComma : ',' ∉ chars

/-- A data type, as it stands in the source. -/
structure DataType where
  chars : List Char
  nonempty : chars ≠ []
  trimmed : Text.trim chars = chars
  noQuote : '"' ∉ chars
  noLineFeed : '\n' ∉ chars
  noBrace : '{' ∉ chars ∧ '}' ∉ chars
  noSlash : '/' ∉ chars

/-- A caption, as it is shown. -/
structure CaptionText where
  chars : List Char
  trimmed : Text.trim chars = chars
  noLineFeed : '\n' ∉ chars

structure FieldSource where
  number : UInt32
  name : SymbolName
  dataType : DataType
  caption : CaptionText

structure KeySource where
  name : SymbolName
  fieldNames : List KeyFieldName

structure TableSource where
  id : UInt32
  name : SymbolName
  fields : List FieldSource
  keys : List KeySource

/-- A block whose lines are indented by the depth that the block stands at. -/
def plainFrame (layout : Nat → Indent) (depth : Nat) (header : HeaderLine)
    (properties : List PropertyLine) : Frame :=
  ⟨[], layout depth, header, layout depth, properties, layout depth⟩

theorem DataType.isQuiet (dataType : DataType) : Text.IsQuiet dataType.chars := by
  have hPlain : ∀ c ∈ dataType.chars, c ≠ '{' ∧ c ≠ '}' ∧ c ≠ '/' := by
    intro c hc
    exact ⟨fun h => dataType.noBrace.1 (h ▸ hc), fun h => dataType.noBrace.2 (h ▸ hc),
      fun h => dataType.noSlash (h ▸ hc)⟩
  obtain ⟨after, hPasses, hAfter⟩ := @Mode.Passes.exists_of_forall .code dataType.chars rfl hPlain
  exact Text.isQuiet_of_passes hPasses (Mode.inBlockComment_of_isClear hAfter)

/-- The arguments of a field show no brace of code. -/
theorem isQuiet_fieldArguments (number : Nat) (name : SymbolName) (dataType : DataType) :
    Text.IsQuiet (Nat.toDigits 10 number ++ ';' :: (' ' :: name.text ++ ';' :: (' ' :: dataType.chars))) := by
  have hDigits : Mode.code.Passes (Nat.toDigits 10 number) .code :=
    Mode.passes_of_isPlain fun _ hc => Mode.isPlain_of_isIdentifierRest
      (Text.isIdentifierRest_of_isDigit (Text.isDigit_of_mem_toDigits hc))
  have hSeparator : Mode.code.Passes [';', ' '] .code := ⟨rfl, rfl⟩
  have hFront := (hDigits.append hSeparator).append (name.passes.append hSeparator)
  have hText : Nat.toDigits 10 number ++ ';' :: (' ' :: name.text ++ ';' :: (' ' :: dataType.chars)) =
      Nat.toDigits 10 number ++ [';', ' '] ++ (name.text ++ [';', ' ']) ++ dataType.chars := by
    simp
  rw [hText]
  exact Text.IsQuiet.of_passes_append hFront dataType.isQuiet

theorem noLineFeed_fieldArguments (number : Nat) (name : SymbolName) (dataType : DataType) :
    '\n' ∉ Nat.toDigits 10 number ++ ';' :: (' ' :: name.text ++ ';' :: (' ' :: dataType.chars)) := by
  have hDigits := Text.not_mem_toDigits (show '\n'.isDigit = false by decide) number
  simp [hDigits, name.noLineFeed_text, dataType.noLineFeed]

/-- Quoted names with commas between them show no brace of code. -/
theorem passes_nameList {α : Type} (name : α → QuotedName) (xs : List α) :
    Mode.code.Passes ([',', ' '].intercalate (xs.map fun x => (name x).text)) .code := by
  have hSeparator : Mode.code.Passes [',', ' '] .code := ⟨rfl, rfl⟩
  apply @Text.intercalate_induction fun text => Mode.code.Passes text .code
  · exact fun _ => Mode.Passes.nil .code
  · intro piece hPiece
    obtain ⟨x, -, rfl⟩ := List.mem_map.mp hPiece
    exact (name x).passes
  · exact fun left right hLeft hRight => hLeft.append (hSeparator.append hRight)

theorem noLineFeed_nameList {α : Type} (name : α → QuotedName) (xs : List α) :
    '\n' ∉ [',', ' '].intercalate (xs.map fun x => (name x).text) := by
  apply @Text.intercalate_induction fun text => '\n' ∉ text
  · simp
  · intro piece hPiece
    obtain ⟨x, -, rfl⟩ := List.mem_map.mp hPiece
    exact (name x).noLineFeed_text
  · intro left right hLeft hRight
    simp [hLeft, hRight]

namespace FieldSource

variable (field : FieldSource)

def digits : List Char :=
  Nat.toDigits 10 field.number.toNat

def argumentText : List Char :=
  field.digits ++ ';' :: (' ' :: field.name.text ++ ';' :: (' ' :: field.dataType.chars))

theorem isQuiet_argumentText : Text.IsQuiet field.argumentText :=
  isQuiet_fieldArguments field.number.toNat field.name field.dataType

theorem noLineFeed_argumentText : '\n' ∉ field.argumentText :=
  noLineFeed_fieldArguments field.number.toNat field.name field.dataType

/-- `field(number; "name"; type)` -/
def header : HeaderLine :=
  .parameterized ⟨['f', 'i', 'e', 'l', 'd'], by decide⟩
    ⟨field.argumentText, field.noLineFeed_argumentText, field.isQuiet_argumentText⟩

/-- `Caption = 'caption';` -/
def captionLine (layout : Nat → Indent) : PropertyLine where
  fillers := []
  indent := layout 3
  name := ⟨['C', 'a', 'p', 't', 'i', 'o', 'n'], by decide⟩
  value :=
    { chars := Caption.literal field.caption.chars
      noLineFeed := Caption.noLineFeed_literal field.caption.noLineFeed
      quiet := Caption.isQuiet_literal field.caption.noLineFeed
      trimmed := Caption.trim_literal field.caption.chars }

def frame (layout : Nat → Indent) : Frame :=
  plainFrame layout 2 field.header [field.captionLine layout]

def declared : TableField where
  controlType := "field"
  id := Nat.repr field.number.toNat
  name := String.ofList field.name.chars
  caption := String.ofList field.caption.chars
  dataType := some (String.ofList field.dataType.chars)
  source := String.ofList field.header.text
  properties := [⟨"Caption", String.ofList (Caption.literal field.caption.chars)⟩]

/-- The region of a field block is built into the field. -/
theorem toTableField_region (layout : Nat → Indent) (offset : Nat) (children : List Region) :
    ((field.frame layout).region offset children).toTableField = field.declared := by
  have hSplit := field.name.splitField_arguments field.number.toNat field.dataType.noQuote
  rw [Arguments.dataType?_of_trim field.dataType.nonempty field.dataType.trimmed] at hSplit
  have hKeyword : ((field.frame layout).region offset children).isKeyword "field" = true :=
    show Text.sameWord "field" "field" = true by decide
  have hName : ((field.frame layout).region offset children).nameText.toList =
      Text.stripQuotes field.argumentText := String.toList_ofList
  have hCaption := Caption.resolve_literal field.caption.chars [] (String.ofList field.name.chars)
  rw [field.caption.trimmed] at hCaption
  rw [Region.toTableField, hKeyword, if_pos rfl, hName, argumentText, digits, hSplit, declared,
    ← hCaption]
  rfl

end FieldSource

namespace KeySource

variable (key : KeySource)

/-- The field names, quoted and with commas between them. -/
def fieldList : List Char :=
  [',', ' '].intercalate (key.fieldNames.map fun field => field.text)

def argumentText : List Char :=
  key.name.text ++ ';' :: (' ' :: key.fieldList)

theorem passes_fieldList : Mode.code.Passes key.fieldList .code :=
  passes_nameList (fun field : KeyFieldName => field.toQuotedName) key.fieldNames

theorem noLineFeed_fieldList : '\n' ∉ key.fieldList :=
  noLineFeed_nameList (fun field : KeyFieldName => field.toQuotedName) key.fieldNames

theorem isQuiet_argumentText : Text.IsQuiet key.argumentText := by
  have hSeparator : Mode.code.Passes [';', ' '] .code := ⟨rfl, rfl⟩
  exact Text.isQuiet_of_passes (key.name.passes.append (hSeparator.append key.passes_fieldList)) rfl

theorem noLineFeed_argumentText : '\n' ∉ key.argumentText := by
  simp [argumentText, key.name.noLineFeed_text, key.noLineFeed_fieldList]

/-- `key("name"; "field", "field")` -/
def header : HeaderLine :=
  .parameterized ⟨['k', 'e', 'y'], by decide⟩
    ⟨key.argumentText, key.noLineFeed_argumentText, key.isQuiet_argumentText⟩

def frame (layout : Nat → Indent) : Frame :=
  plainFrame layout 2 key.header []

def declared : TableKey where
  controlType := "key"
  name := String.ofList key.name.chars
  caption := String.ofList key.name.chars
  fieldNames := key.fieldNames.map fun field => String.ofList field.chars
  source := String.ofList key.header.text
  properties := []

/-- The names of the fields without their quotes. -/
def plainNames : List (List Char) :=
  key.fieldNames.map fun field => field.chars

theorem filter_argumentText : key.argumentText.filter (· != '"') =
    key.name.chars ++ ';' :: (' ' :: [',', ' '].intercalate key.plainNames) := by
  have hList : key.fieldList.filter (· != '"') = [',', ' '].intercalate key.plainNames := by
    rw [fieldList, Text.filter_intercalate _ rfl, List.map_map, plainNames]
    congr 1
    apply List.map_congr_left
    intro name hName
    exact name.filter_text
  simp [argumentText, key.name.filter_text, hList]

/-- The arguments are split again into the name and the field names. -/
theorem splitKey_argumentText : Arguments.splitKey (Text.stripQuotes key.argumentText) =
    (String.ofList key.name.chars, key.plainNames.map String.ofList) := by
  have hFront := Text.trim_append_singleton key.name.trimmed (show Text.isBlank ';' = false by decide)
  rw [Text.stripQuotes, key.filter_argumentText]
  by_cases hFields : key.plainNames = []
  · have hBlank : ∀ c ∈ [' '], Text.isBlank c = true := List.all_eq_true.mp rfl
    have hTrim := (Text.trim_append_blanks hBlank _).trans hFront
    rw [List.append_assoc, List.singleton_append] at hTrim
    rw [hFields, List.intercalate_nil, hTrim]
    exact Arguments.splitKey_of_no_fields key.name.noSemicolon key.name.trimmed
  · have hBack : Text.trim ([',', ' '].intercalate key.plainNames) =
        [',', ' '].intercalate key.plainNames ∧ [',', ' '].intercalate key.plainNames ≠ [] := by
      apply @Text.intercalate_induction fun text => Text.trim text = text ∧ text ≠ []
      · exact fun hNil => absurd hNil hFields
      · intro piece hPiece
        obtain ⟨name, -, rfl⟩ := List.mem_map.mp hPiece
        exact ⟨name.trimmed, name.nonempty⟩
      · intro left right hLeft hRight
        exact ⟨Text.trim_between hLeft.1 hLeft.2 hRight.1 hRight.2 _, by simp [hLeft.2]⟩
    have hTrim := Text.trim_between hFront (by simp) hBack.1 hBack.2 [' ']
    rw [List.append_assoc, List.singleton_append, List.singleton_append] at hTrim
    rw [hTrim]
    apply Arguments.splitKey_append key.name.noSemicolon key.name.trimmed hFields
    intro piece hPiece
    obtain ⟨name, -, rfl⟩ := List.mem_map.mp hPiece
    exact ⟨name.nonempty, name.noComma, name.noQuote, name.trimmed⟩

/-- The region of a key block is built into the key. -/
theorem toTableKey_region (layout : Nat → Indent) (offset : Nat) (children : List Region) :
    ((key.frame layout).region offset children).toTableKey = key.declared := by
  have hKeyword : ((key.frame layout).region offset children).isKeyword "key" = true :=
    show Text.sameWord "key" "key" = true by decide
  have hName : ((key.frame layout).region offset children).nameText.toList =
      Text.stripQuotes key.argumentText := String.toList_ofList
  have hCaption := Caption.resolve_nil key.name.noQuote key.name.trimmed
  have hProperties : ((key.frame layout).region offset children).properties = [] := rfl
  rw [Region.toTableKey, hKeyword, if_pos rfl, hName, key.splitKey_argumentText, hProperties]
  simp only [hCaption, plainNames, List.map_map]
  rfl

end KeySource

/-- Blocks without nested blocks, one after another. -/
def leaves : List Frame → Regions
  | [] => .done []
  | frame :: rest => .block frame (.done []) (leaves rest)

theorem fieldsAreLeaves_leaves (frames : List Frame) : (leaves frames).FieldsAreLeaves := by
  induction frames with
  | nil => trivial
  | cons frame rest ih => exact ⟨fun _ => rfl, trivial, ih⟩

theorem height_leaves_le (frames : List Frame) : (leaves frames).height ≤ 1 := by
  induction frames with
  | nil => exact Nat.zero_le 1
  | cons frame rest ih => exact Nat.max_le.mpr ⟨Nat.le_refl 1, ih⟩

/-- What does not depend on offsets is made of the frames alone. -/
theorem map_regions_leaves {β γ : Type} (f : Region → β) (frame : γ → Frame) (g : γ → β)
    (h : ∀ x offset, f ((frame x).region offset []) = g x) (xs : List γ) (base : Nat) :
    ((leaves (xs.map frame)).regions base).map f = xs.map g := by
  induction xs generalizing base with
  | nil => rfl
  | cons x rest ih =>
      rw [List.map_cons, leaves, Regions.regions, List.map_cons, ih]
      simp only [Regions.regions, h, List.map_cons]

/-- A table with a block for its fields and a block for its keys. -/
def tableBlocks (table fields keys : Frame) (fieldFrames keyFrames : List Frame) : Regions :=
  .block table (.block fields (leaves fieldFrames) (.block keys (leaves keyFrames) (.done []))) (.done [])

section

variable {table fields keys : Frame} (hType : ObjectKind.ofType table.header.header.objectType = .table)
  (hTable : table.header.header.keyword ≠ "field") (hFields : fields.header.header.keyword = "fields")
  (hKeys : keys.header.header.keyword = "keys") (fieldFrames keyFrames : List Frame)
include hTable hFields hKeys

theorem fieldsAreLeaves_tableBlocks :
    (tableBlocks table fields keys fieldFrames keyFrames).FieldsAreLeaves := by
  have hFieldsKeyword : fields.header.header.keyword ≠ "field" := by rw [hFields]; decide
  have hKeysKeyword : keys.header.header.keyword ≠ "field" := by rw [hKeys]; decide
  exact ⟨fun h => absurd h hTable,
    ⟨fun h => absurd h hFieldsKeyword, fieldsAreLeaves_leaves _,
      fun h => absurd h hKeysKeyword, fieldsAreLeaves_leaves _, trivial⟩, trivial⟩

omit hTable hFields hKeys in
theorem height_tableBlocks_le : (tableBlocks table fields keys fieldFrames keyFrames).height ≤ 3 := by
  have hFieldLevels := height_leaves_le fieldFrames
  have hKeyLevels := height_leaves_le keyFrames
  simp only [tableBlocks, Regions.height]
  omega

include hType

omit hTable in
/-- Such blocks are one region, and it is built into a table with what its two blocks hold. -/
theorem exists_region_tableBlocks : ∃ region,
    (tableBlocks table fields keys fieldFrames keyFrames).regions 0 = [region] ∧
      ∃ fieldBase keyBase, region.toSymbol = .table
        { header := (table.region 0 []).objectHeader
          fields := ((leaves fieldFrames).regions fieldBase).map Region.toTableField
          keys := ((leaves keyFrames).regions keyBase).map Region.toTableKey
          fieldGroups := [] } := by
  refine ⟨_, rfl, _, _, (Region.toSymbol_of_table ?_ rfl hFields hKeys).trans rfl⟩
  exact hType

/-- Parsing them gives this table, and nothing is reported. -/
theorem parse_tableBlocks : ∃ fieldBase keyBase,
    Parse.text Region.defaultMaxDepth (tableBlocks table fields keys fieldFrames keyFrames).text =
      ⟨.table
        { header := (table.region 0 []).objectHeader
          fields := ((leaves fieldFrames).regions fieldBase).map Region.toTableField
          keys := ((leaves keyFrames).regions keyBase).map Region.toTableKey
          fieldGroups := [] }, []⟩ := by
  have hHeight : (tableBlocks table fields keys fieldFrames keyFrames).height ≤ Region.defaultMaxDepth :=
    Nat.le_trans (height_tableBlocks_le fieldFrames keyFrames) (by decide)
  have hSource := (tableBlocks table fields keys fieldFrames keyFrames).matchSource_text
    Region.defaultMaxDepth (fieldsAreLeaves_tableBlocks hTable hFields hKeys _ _) hHeight
  obtain ⟨region, hRegions, fieldBase, keyBase, hSymbol⟩ :=
    exists_region_tableBlocks hType hFields hKeys fieldFrames keyFrames
  rw [hRegions] at hSource
  have hSupported : Parse.unsupported? region = none := by rw [Parse.unsupported?, hSymbol]
  refine ⟨fieldBase, keyBase, ?_⟩
  simp [Parse.text, Parse.objects, hSource, hSymbol, hSupported]

end

namespace TableSource

/-- `table id "name"` -/
def header (table : TableSource) : HeaderLine :=
  .numbered ⟨['t', 'a', 'b', 'l', 'e'], by decide, by decide⟩ table.id table.name.toQuotedName none

def fieldsHeader : HeaderLine :=
  .bare ⟨['f', 'i', 'e', 'l', 'd', 's'], by decide⟩

def keysHeader : HeaderLine :=
  .bare ⟨['k', 'e', 'y', 's'], by decide⟩

/-- The table with a block for its fields and a block for its keys. -/
def blocks (layout : Nat → Indent) (table : TableSource) : Regions :=
  .block (plainFrame layout 0 table.header [])
    (.block (plainFrame layout 1 fieldsHeader [])
      (leaves (table.fields.map fun field => field.frame layout))
      (.block (plainFrame layout 1 keysHeader [])
        (leaves (table.keys.map fun key => key.frame layout)) (.done [])))
    (.done [])

def source (layout : Nat → Indent) (table : TableSource) : List Char :=
  (table.blocks layout).text

/-- The table that the source declares. -/
def declared (table : TableSource) : Table where
  header := ⟨table.id, String.ofList table.name.chars, "table", none, []⟩
  fields := table.fields.map FieldSource.declared
  keys := table.keys.map KeySource.declared
  fieldGroups := []

/-- Parsing the source of a table gives back the table, and nothing is reported. -/
theorem parse_source (layout : Nat → Indent) (table : TableSource) :
    Parse.text Region.defaultMaxDepth (table.source layout) = ⟨.table table.declared, []⟩ := by
  have hType : ObjectKind.ofType "table" = .table := by decide
  have hTable : table.header.header.keyword ≠ "field" := show "table" ≠ "field" by decide
  have hFields := map_regions_leaves Region.toTableField (fun field => FieldSource.frame field layout)
    FieldSource.declared fun field offset => field.toTableField_region layout offset []
  have hKeys := map_regions_leaves Region.toTableKey (fun key => KeySource.frame key layout)
    KeySource.declared fun key offset => key.toTableKey_region layout offset []
  obtain ⟨fieldBase, keyBase, hParse⟩ := @parse_tableBlocks (plainFrame layout 0 table.header [])
    (plainFrame layout 1 fieldsHeader []) (plainFrame layout 1 keysHeader []) hType hTable rfl rfl
    (table.fields.map fun field => field.frame layout) (table.keys.map fun key => key.frame layout)
  rw [hFields, hKeys] at hParse
  exact hParse

/-- A table with one field and one key. Braces, slashes and apostrophes in its names and in its caption
do not count. -/
def customerTable : TableSource where
  id := 18
  name := ⟨⟨"Customer \x7b".toList, by decide, by decide, by decide⟩, by decide⟩
  fields :=
    [{ number := 1
       name := ⟨⟨"No. /*".toList, by decide, by decide, by decide⟩, by decide⟩
       dataType := ⟨"Code[20]".toList, by decide, by decide, by decide, by decide, by decide, by decide⟩
       caption := ⟨"It's \x7b".toList, by decide, by decide⟩ }]
  keys :=
    [{ name := ⟨⟨"PK".toList, by decide, by decide, by decide⟩, by decide⟩
       fieldNames :=
         [⟨⟨⟨"No. /*".toList, by decide, by decide, by decide⟩, by decide⟩, by decide, by decide⟩] }]

/-- The source of the table, with no indentation. -/
def customerText : String :=
  "table 18 \"Customer \x7b\"\n\x7b\nfields\n\x7b\nfield(1; \"No. /*\"; Code[20])\n\x7b\n" ++
    "Caption = 'It''s \x7b';\n\x7d\n\x7d\nkeys\n\x7b\nkey(\"PK\"; \"No. /*\")\n\x7b\n\x7d\n\x7d\n\x7d\n"

theorem parse_customerText :
    Parse.text Region.defaultMaxDepth customerText.toList =
      ⟨.table
        { header := ⟨18, "Customer \x7b", "table", none, []⟩
          fields :=
            [{ controlType := "field"
               id := "1"
               name := "No. /*"
               caption := "It's \x7b"
               dataType := some "Code[20]"
               source := "field(1; \"No. /*\"; Code[20])"
               properties := [⟨"Caption", "'It''s \x7b'"⟩] }]
          keys :=
            [{ controlType := "key"
               name := "PK"
               caption := "PK"
               fieldNames := ["No. /*"]
               source := "key(\"PK\"; \"No. /*\")" }] }, []⟩ := by
  have hSource : customerText.toList =
      customerTable.source fun _ => ⟨[], by decide, by decide⟩ := by decide +kernel
  rw [hSource, parse_source]
  rfl

end TableSource
end Written
end ObjectOutline
