import ObjectOutline.Proofs.Parse.TopLevel
import ObjectOutline.Proofs.Region.Within
import ObjectOutline.Proofs.Written.TableSource

/-! Names of fields. The header line of a field has the name in double quotes and other arguments beside
it. The quotes are taken off before the arguments are told apart, so what a name may not hold is the
semicolon that tells them apart. Everything else is kept, braces and the marks of comments too. -/
namespace ObjectOutline

namespace PageControl

/-- The control without what depends on its place. -/
def bare (control : PageControl) : PageControl :=
  { control with separator := false, parent := none, controls := [] }

theorem preorderAll_append (first second : List PageControl) :
    preorderAll (first ++ second) = preorderAll first ++ preorderAll second := by
  induction first with
  | nil => rfl
  | cons control rest ih => rw [List.cons_append, preorderAll, preorderAll, ih, List.append_assoc]

theorem mem_preorderAll_flatMap {α : Type} {f : α → List PageControl} {xs : List α}
    {control : PageControl} :
    control ∈ preorderAll (xs.flatMap f) ↔ ∃ x ∈ xs, control ∈ preorderAll (f x) := by
  induction xs with
  | nil => simp [preorderAll]
  | cons x rest ih =>
      rw [List.flatMap_cons, preorderAll_append, List.mem_append, ih, List.exists_mem_cons_iff]

end PageControl

namespace ObjectSymbol

/-- The controls of the layout, if the object is a page. -/
def layoutControls : ObjectSymbol → List PageControl
  | page symbol => symbol.allControls
  | table _ | unsupported _ => []

/-- The fields, if the object is a table. -/
def tableFields : ObjectSymbol → List TableField
  | table symbol => symbol.fields
  | page _ | unsupported _ => []

end ObjectSymbol

namespace Region

theorem bare_toControl (parent : Option EnclosingControl) (index count : Nat) (region : Region) :
    (toControl parent index count region).bare = region.bareControl := by
  rw [toControl_eq]
  rfl

/-- Apart from their places, the controls are made from the regions one by one. -/
theorem map_bare_toControlsFrom (parent : Option EnclosingControl) (index count : Nat)
    (regions : List Region) :
    (PageControl.preorderAll (toControlsFrom parent index count regions)).map PageControl.bare =
      (preorderAll regions).map bareControl := by
  induction regions using inductionAll generalizing parent index count with
  | nil =>
      rw [toControlsFrom]
      rfl
  | cons region rest ihInner ihRest =>
      rw [toControlsFrom, PageControl.preorderAll, PageControl.preorder_eq, preorderAll_cons,
        List.map_append, List.map_append, List.map_cons, List.map_cons, controls_toControl,
        bare_toControl, toControls, ihInner, ihRest]

theorem mem_layoutControls_toSymbol {root : Region} {control : PageControl} :
    control ∈ root.toSymbol.layoutControls ↔
      ObjectKind.ofType root.objectType = .page ∧
        ∃ group ∈ root.children, group.isKeyword "actions" = false ∧
          control ∈ PageControl.preorderAll (toControls none group.children) := by
  have hGroup (group : Region) :
      control ∈ PageControl.preorderAll
          (if group.isKeyword "actions" then [] else toControls none group.children) ↔
        group.isKeyword "actions" = false ∧
          control ∈ PageControl.preorderAll (toControls none group.children) := by
    cases group.isKeyword "actions" <;> simp [PageControl.preorderAll]
  rw [toSymbol]
  cases ObjectKind.ofType root.objectType with
  | table | other => simp [ObjectSymbol.layoutControls]
  | page =>
      simp only [ObjectSymbol.layoutControls, Page.allControls, toPage,
        PageControl.mem_preorderAll_flatMap, hGroup, true_and]

theorem mem_tableFields_toSymbol {root : Region} {field : TableField} :
    field ∈ root.toSymbol.tableFields ↔
      ObjectKind.ofType root.objectType = .table ∧
        ∃ group ∈ root.children, group.isKeyword "fields" = true ∧
          ∃ region ∈ group.children, region.toTableField = field := by
  have hGroup (group : Region) :
      field ∈ (if group.isKeyword "fields" then group.children.map toTableField else []) ↔
        group.isKeyword "fields" = true ∧ ∃ region ∈ group.children, region.toTableField = field := by
    cases group.isKeyword "fields" <;> simp
  rw [toSymbol]
  cases ObjectKind.ofType root.objectType with
  | page | other => simp [ObjectSymbol.tableFields]
  | table => simp only [ObjectSymbol.tableFields, toTable, List.mem_flatMap, hGroup, true_and]

/-- A group of an object has its region in that of the object, when its body holds one. -/
theorem exists_group_of_beside {limit : Nat} {object group : Block}
    (hGroup : Block.Beside object.body group) (hLimit : 3 ≤ limit)
    (hFilled : ∀ base, (matchFrom limit 2 base group.body).regions ≠ []) :
    ∃ base base', ofBody base group (matchFrom limit 2 base' group.body) ∈
      (ofBody 0 object (matchBody limit 0 0 object)).children := by
  have hBody (base : Nat) := matchBody_of_lt (show 1 + 1 < limit by omega) base group
  have hKept (base : Nat) : (matchBody limit 1 base group).regions ≠ [] := by
    rw [hBody]
    exact hFilled _
  obtain ⟨base, hRegion⟩ := exists_region_of_beside hGroup (0 + object.bodyOffset) (Or.inr hKept)
  rw [hBody] at hRegion
  refine ⟨base, base + group.bodyOffset, ?_⟩
  rw [ofBody, matchBody_of_lt (show 0 + 1 < limit by omega)]
  exact hRegion

theorem source_bareControl (region : Region) : region.bareControl.source = region.source := rfl

theorem source_toTableField (region : Region) : region.toTableField.source = region.source := rfl

end Region

namespace Block

/-- The text is a page, and the block stands in its layout: in a group that is not one of actions, at
whatever level above the limit, and the source was not cut off inside it. -/
def InLayout (maxDepth : Nat) (text : List Char) (control : Block) : Prop :=
  ∃ page group path, IsFirst text page ∧ ObjectKind.ofType page.header.objectType = .page ∧
    Beside page.body group ∧ Text.sameWord group.header.keyword "actions" = false ∧
    Within group.body path control ∧ path.length + 3 ≤ maxDepth ∧
    control.Survives (maxDepth - (path.length + 3))

/-- The text is a table, and the block is one of those in a group of fields, above the limit, and the source
was not cut off inside it. -/
def InFields (maxDepth : Nat) (text : List Char) (field : Block) : Prop :=
  ∃ table group, IsFirst text table ∧ ObjectKind.ofType table.header.objectType = .table ∧
    Beside table.body group ∧ Text.sameWord group.header.keyword "fields" = true ∧
    Beside group.body field ∧ 3 ≤ maxDepth ∧ field.Survives (maxDepth - 3)

end Block

namespace Parse

section

variable {maxDepth : Nat} {text : List Char}

/-- Whatever the object of a source is made of comes from a region all of whose parts are blocks. -/
theorem exists_root_of_mem {α : Type} {x : α} (parts : ObjectSymbol → List α)
    (hUnparsed : parts .unparsed = []) (h : x ∈ parts (Parse.text maxDepth text).object) :
    ∃ root : Region, x ∈ parts root.toSymbol ∧
      ∀ region ∈ Region.preorderAll root.children, region.IsOfBlock := by
  cases hFind : Block.find? text with
  | none =>
      rw [object_of_find?_eq_none hFind, hUnparsed] at h
      cases h
  | some block =>
      rw [object_of_isFirst ((Block.find?_eq_some_iff text block).mp hFind)] at h
      exact ⟨_, h, fun region hRegion => Region.isOfBlock_of_mem_matchBody hRegion⟩

/-- Every control of the layout is made from the region of a block. -/
theorem exists_region_of_mem_layoutControls {control : PageControl}
    (h : control ∈ (Parse.text maxDepth text).object.layoutControls) :
    ∃ region : Region, region.IsOfBlock ∧ region.bareControl = control.bare := by
  obtain ⟨root, hRoot, hBlocks⟩ := exists_root_of_mem ObjectSymbol.layoutControls rfl h
  obtain ⟨-, group, hGroup, -, hControl⟩ := Region.mem_layoutControls_toSymbol.mp hRoot
  have hBare := @List.mem_map_of_mem _ _ _ _ PageControl.bare hControl
  rw [Region.toControls, Region.map_bare_toControlsFrom] at hBare
  obtain ⟨region, hRegion, hSame⟩ := List.mem_map.mp hBare
  exact ⟨region, hBlocks region (Region.mem_preorderAll_of_children hGroup hRegion), hSame⟩

/-- Every field is made from the region of a block. -/
theorem exists_region_of_mem_tableFields {field : TableField}
    (h : field ∈ (Parse.text maxDepth text).object.tableFields) :
    ∃ region : Region, region.IsOfBlock ∧ region.toTableField = field := by
  obtain ⟨root, hRoot, hBlocks⟩ := exists_root_of_mem ObjectSymbol.tableFields rfl h
  obtain ⟨-, group, hGroup, -, region, hRegion, hField⟩ := Region.mem_tableFields_toSymbol.mp hRoot
  exact ⟨region, hBlocks region (Region.mem_preorderAll_of_children hGroup
    (Region.mem_preorderAll_of_mem hRegion)), hField⟩

/-- A block in the layout has its control. -/
theorem exists_control_of_inLayout {block : Block} (h : block.InLayout maxDepth text) :
    ∃ control ∈ (Parse.text maxDepth text).object.layoutControls,
      control.source = String.ofList block.headerLine := by
  obtain ⟨page, group, path, hPage, hType, hGroup, hKeyword, hBlock, hLimit, hSurvives⟩ := h
  have hKept := Region.kept_of_survives hSurvives
    (show 2 + path.length + 1 + (maxDepth - (path.length + 3)) ≤ max 1 maxDepth by omega)
  have hInner (base : Nat) := Region.exists_region_of_within hBlock base
    (show 2 + path.length < max 1 maxDepth by omega) hKept
  have hFilled (base : Nat) : (Region.matchFrom (max 1 maxDepth) 2 base group.body).regions ≠ [] := by
    obtain ⟨base', hRegion⟩ := hInner base
    exact Region.ne_nil_of_mem_preorderAll hRegion
  obtain ⟨base, base', hGroupRegion⟩ :=
    Region.exists_group_of_beside hGroup (show 3 ≤ max 1 maxDepth by omega) hFilled
  obtain ⟨offset, hRegion⟩ := hInner base'
  have hBare := @List.mem_map_of_mem _ _ _ _ Region.bareControl hRegion
  rw [← Region.map_bare_toControlsFrom none 1
    (Region.matchFrom (max 1 maxDepth) 2 base' group.body).regions.length] at hBare
  obtain ⟨control, hControl, hSame⟩ := List.mem_map.mp hBare
  have hSource := congrArg PageControl.source hSame
  rw [Region.source_bareControl] at hSource
  refine ⟨control, ?_, hSource⟩
  rw [object_of_isFirst hPage, Region.mem_layoutControls_toSymbol]
  exact ⟨hType, _, hGroupRegion, hKeyword, hControl⟩

/-- A block among the fields has its field. -/
theorem exists_field_of_inFields {block : Block} (h : block.InFields maxDepth text) :
    ∃ field ∈ (Parse.text maxDepth text).object.tableFields,
      field.source = String.ofList block.headerLine := by
  obtain ⟨table, group, hTable, hType, hGroup, hKeyword, hBlock, hLimit, hSurvives⟩ := h
  have hKept := Region.kept_of_survives hSurvives
    (show 2 + 1 + (maxDepth - 3) ≤ max 1 maxDepth by omega)
  have hInner (base : Nat) := Region.exists_region_of_beside hBlock base hKept
  have hFilled (base : Nat) : (Region.matchFrom (max 1 maxDepth) 2 base group.body).regions ≠ [] := by
    obtain ⟨base', hRegion⟩ := hInner base
    exact List.ne_nil_of_mem hRegion
  obtain ⟨base, base', hGroupRegion⟩ :=
    Region.exists_group_of_beside hGroup (show 3 ≤ max 1 maxDepth by omega) hFilled
  obtain ⟨offset, hRegion⟩ := hInner base'
  have hSource := Region.source_toTableField
    (Region.ofBody offset block (Region.matchBody (max 1 maxDepth) 2 offset block))
  refine ⟨_, ?_, hSource⟩
  rw [object_of_isFirst hTable, Region.mem_tableFields_toSymbol]
  exact ⟨hType, _, hGroupRegion, hKeyword, _, hRegion, rfl⟩

end

end Parse

namespace Written

/-- An argument of a field that is not quoted. -/
structure PlainArgument where
  chars : List Char
  noQuote : '"' ∉ chars
  noLineFeed : '\n' ∉ chars

/-- `field(arguments)` -/
def fieldLine (arguments : List Char) : List Char :=
  ['f', 'i', 'e', 'l', 'd'] ++ '(' :: (arguments ++ [')'])

/-- `field("name"; expression)`, as pages have it. -/
structure PageFieldLine where
  name : SymbolName
  expression : PlainArgument

/-- `field(number; "name"; type)`, as tables have it. -/
structure TableFieldLine where
  number : UInt32
  name : SymbolName
  dataType : PlainArgument

namespace PageFieldLine

variable (line : PageFieldLine)

def arguments : List Char :=
  line.name.text ++ ';' :: (' ' :: line.expression.chars)

def text : List Char :=
  fieldLine line.arguments

theorem noLineFeed_arguments : '\n' ∉ line.arguments := by
  simp [arguments, line.name.noLineFeed_text, line.expression.noLineFeed]

/-- The quotes are taken off first, and then the first semicolon is still the one behind the name. -/
theorem splitSource_arguments :
    Arguments.splitSource (Text.stripQuotes line.arguments) =
      (String.ofList line.name.chars, Arguments.trimmed line.expression.chars) := by
  have hFilter : line.arguments.filter (· != '"') =
      line.name.chars ++ ';' :: (' ' :: line.expression.chars) := by
    simp [arguments, line.name.filter_text, Text.filter_bne line.expression.noQuote]
  rw [Text.stripQuotes, hFilter, Text.trim_append_cons line.name.trimmed (by decide),
    Arguments.splitSource_append line.name.noSemicolon line.name.trimmed, Arguments.trimmed,
    Text.trim_trimEnd, Text.trim_space_cons, Arguments.trimmed]

end PageFieldLine

namespace TableFieldLine

variable (line : TableFieldLine)

def arguments : List Char :=
  Nat.toDigits 10 line.number.toNat ++
    ';' :: (' ' :: line.name.text ++ ';' :: (' ' :: line.dataType.chars))

def text : List Char :=
  fieldLine line.arguments

theorem noLineFeed_arguments : '\n' ∉ line.arguments := by
  have hDigits := Text.not_mem_toDigits (show '\n'.isDigit = false by decide) line.number.toNat
  simp [arguments, hDigits, line.name.noLineFeed_text, line.dataType.noLineFeed]

end TableFieldLine

end Written

namespace Region

variable {region : Region}

/-- A region with such a header line is a field and has the arguments without their quotes for its name. -/
theorem field_of_source (h : region.IsOfBlock) {arguments : List Char} (hLine : '\n' ∉ arguments)
    (hSource : region.source = String.ofList (Written.fieldLine arguments)) :
    region.isKeyword "field" = true ∧ region.nameText.toList = Text.stripQuotes arguments := by
  obtain ⟨base, block, inner, rfl⟩ := h
  have hHeader : Text.lastFilledLine block.pre = Written.fieldLine arguments :=
    String.ofList_injective hSource
  have hClassify := Written.HeaderLine.classify_parameterized
    ⟨['f', 'i', 'e', 'l', 'd'], by decide⟩ hLine
  have hKeyword :
      Text.sameWord (String.ofList (Text.lowerAscii ['f', 'i', 'e', 'l', 'd'])) "field" = true := by
    decide
  rw [isKeyword, nameText, ofBody, hHeader, Written.fieldLine, hClassify]
  exact ⟨hKeyword, String.toList_ofList⟩

theorem bareControl_of_source (h : region.IsOfBlock) (line : Written.PageFieldLine)
    (hSource : region.source = String.ofList line.text) :
    region.bareControl.name = String.ofList line.name.chars ∧
      region.bareControl.sourceExpression = Arguments.trimmed line.expression.chars := by
  obtain ⟨hField, hName⟩ := field_of_source h line.noLineFeed_arguments hSource
  rw [bareControl, hField, hName, Bool.true_or, if_pos rfl, line.splitSource_arguments]
  exact ⟨rfl, rfl⟩

theorem toTableField_of_source (h : region.IsOfBlock) (line : Written.TableFieldLine)
    (hSource : region.source = String.ofList line.text) :
    region.toTableField.id = Nat.repr line.number.toNat ∧
      region.toTableField.name = String.ofList line.name.chars ∧
      region.toTableField.dataType = Arguments.dataType? line.dataType.chars := by
  obtain ⟨hField, hName⟩ := field_of_source h line.noLineFeed_arguments hSource
  have hSplit := line.name.splitField_arguments line.number.toNat line.dataType.noQuote
  rw [toTableField, hField, hName, if_pos rfl, Written.TableFieldLine.arguments, hSplit]
  exact ⟨rfl, rfl, rfl⟩

end Region

namespace Parse

/-- Quoted names are kept. A block in the layout of a page whose header line is a field with a quoted name has
a control, and every control with that header line has the name and the trimmed expression. A block among
the fields of a table whose header line is such a line has a field, and every field with that header line
has the number, the name and the trimmed data type, or none if there is nothing but blanks. -/
theorem quotedNames_kept (maxDepth : Nat) (text : List Char) :
    (∀ line : Written.PageFieldLine,
      (∀ block : Block, block.InLayout maxDepth text → block.headerLine = line.text →
        ∃ control ∈ (Parse.text maxDepth text).object.layoutControls,
          control.source = String.ofList line.text) ∧
      ∀ control ∈ (Parse.text maxDepth text).object.layoutControls,
        control.source = String.ofList line.text →
          control.name = String.ofList line.name.chars ∧
          control.sourceExpression = String.ofList (Text.trim line.expression.chars)) ∧
    ∀ line : Written.TableFieldLine,
      (∀ block : Block, block.InFields maxDepth text → block.headerLine = line.text →
        ∃ field ∈ (Parse.text maxDepth text).object.tableFields,
          field.source = String.ofList line.text) ∧
      ∀ field ∈ (Parse.text maxDepth text).object.tableFields,
        field.source = String.ofList line.text →
          field.id = Nat.repr line.number.toNat ∧ field.name = String.ofList line.name.chars ∧
          field.dataType = if Text.trim line.dataType.chars = [] then none
            else some (String.ofList (Text.trim line.dataType.chars)) := by
  refine ⟨fun line => ⟨?_, ?_⟩, fun line => ⟨?_, ?_⟩⟩
  · intro block hBlock hLine
    rw [← hLine]
    exact exists_control_of_inLayout hBlock
  · intro control hControl hSource
    obtain ⟨region, hRegion, hSame⟩ := exists_region_of_mem_layoutControls hControl
    have hRegionSource := (congrArg PageControl.source hSame).trans hSource
    obtain ⟨hName, hExpression⟩ := Region.bareControl_of_source hRegion line hRegionSource
    exact ⟨(congrArg PageControl.name hSame).symm.trans hName,
      (congrArg PageControl.sourceExpression hSame).symm.trans hExpression⟩
  · intro block hBlock hLine
    rw [← hLine]
    exact exists_field_of_inFields hBlock
  · intro field hField hSource
    obtain ⟨region, hRegion, rfl⟩ := exists_region_of_mem_tableFields hField
    obtain ⟨hNumber, hName, hType⟩ := Region.toTableField_of_source hRegion line hSource
    refine ⟨hNumber, hName, hType.trans ?_⟩
    simp only [Arguments.dataType?, Arguments.trimmed, List.isEmpty_iff]

/-- A field of a page whose name looks like code. -/
def pageWithQuotedName : List Char :=
  "page 1 P\x7blayout\x7bfield(\"a\x7b'b //c\"; Rec.D )\x7b\x7d\x7d\x7d".toList

/-- A field of a table with the same name. -/
def tableWithQuotedName : List Char :=
  "table 1 T\x7bfields\x7bfield(7; \"a\x7b'b //c\"; Code[20] )\x7b\x7d\x7d\x7d".toList

/-- The name is that in the source, and so are the other arguments, without the blanks around them. -/
theorem quotedNames_kept_codelike :
    (∃ control ∈ (Parse.text 64 pageWithQuotedName).object.layoutControls,
      control.name = "a\x7b'b //c" ∧ control.sourceExpression = "Rec.D") ∧
    ∃ field ∈ (Parse.text 64 tableWithQuotedName).object.tableFields,
      field.id = "7" ∧ field.name = "a\x7b'b //c" ∧ field.dataType = some "Code[20]" := by
  let name : Written.SymbolName :=
    ⟨⟨"a\x7b'b //c".toList, by decide, by decide, by decide⟩, by decide⟩
  refine ⟨?_, ?_⟩
  · let line : Written.PageFieldLine := ⟨name, ⟨"Rec.D ".toList, by decide, by decide⟩⟩
    let field : Block := ⟨line.text, [], some []⟩
    let group : Block := ⟨"layout".toList, line.text ++ ['{', '}'], some []⟩
    let page : Block := ⟨"page 1 P".toList, group.pre ++ '{' :: group.body ++ ['}'], some []⟩
    have hPage := (Block.find?_eq_some_iff pageWithQuotedName page).mp (by decide +kernel)
    have hGroup := (Block.find?_eq_some_iff page.body group).mp (by decide +kernel)
    have hField := (Block.find?_eq_some_iff group.body field).mp (by decide +kernel)
    have hLayout : field.InLayout 64 pageWithQuotedName :=
      ⟨page, group, [], hPage, by decide +kernel, .first hGroup, by decide +kernel,
        .here (.first hField), by decide, Or.inl rfl⟩
    obtain ⟨hExists, hAll⟩ := (quotedNames_kept 64 pageWithQuotedName).1 line
    obtain ⟨control, hControl, hSource⟩ := hExists field hLayout (by decide +kernel)
    obtain ⟨hName, hExpression⟩ := hAll control hControl hSource
    exact ⟨control, hControl, hName, hExpression⟩
  · let line : Written.TableFieldLine := ⟨7, name, ⟨"Code[20] ".toList, by decide, by decide⟩⟩
    let field : Block := ⟨line.text, [], some []⟩
    let group : Block := ⟨"fields".toList, line.text ++ ['{', '}'], some []⟩
    let table : Block := ⟨"table 1 T".toList, group.pre ++ '{' :: group.body ++ ['}'], some []⟩
    have hTable := (Block.find?_eq_some_iff tableWithQuotedName table).mp (by decide +kernel)
    have hGroup := (Block.find?_eq_some_iff table.body group).mp (by decide +kernel)
    have hField := (Block.find?_eq_some_iff group.body field).mp (by decide +kernel)
    have hFields : field.InFields 64 tableWithQuotedName :=
      ⟨table, group, hTable, by decide +kernel, .first hGroup, by decide +kernel, .first hField,
        by decide, Or.inl rfl⟩
    have hSeven : Nat.repr 7 = "7" := by decide
    obtain ⟨hExists, hAll⟩ := (quotedNames_kept 64 tableWithQuotedName).2 line
    obtain ⟨found, hMem, hSource⟩ := hExists field hFields (by decide +kernel)
    obtain ⟨hNumber, hName, hType⟩ := hAll found hMem hSource
    exact ⟨found, hMem, hNumber.trans hSeven, hName, hType⟩

/-- A semicolon in the name divides it, and blanks are no data type. -/
theorem quotedNames_divided :
    (Parse.text 64 "page 1 P\n\x7b\nlayout\n\x7b\nfield(\"a;b\"; e)\n\x7b\n\x7d\n\x7d\n\x7d\n".toList
      ).object.layoutControls.map (fun control =>
        (control.source, control.name, control.sourceExpression)) =
      [("field(\"a;b\"; e)", "a", "b; e")] ∧
    (Parse.text 64 "table 1 T\n\x7b\nfields\n\x7b\nfield(1; \"n\"; )\n\x7b\n\x7d\n\x7d\n\x7d\n".toList
      ).object.tableFields.map (fun field => (field.source, field.name, field.dataType)) =
      [("field(1; \"n\"; )", "n", none)] := by
  decide +kernel

end Parse
end ObjectOutline
