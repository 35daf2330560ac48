import ObjectOutline.Region
import ObjectOutline.Symbol
import ObjectOutline.Symbol.Arguments
import ObjectOutline.Symbol.Caption
import ObjectOutline.Symbol.Columns
import ObjectOutline.Text.Case

/-! Building: from a region to the symbol of the object that it declares. A table takes its fields
and keys from the regions `fields` and `keys`, and ignores others. A page takes its actions from the
regions `actions` and its controls from all others. Keywords are compared ignoring case. -/
namespace ObjectOutline

/-- The kinds of objects that have a symbol of their own, and the rest. -/
inductive ObjectKind where
  | table
  | page
  | other
  deriving DecidableEq, Repr

/-- The kind that an object type names. -/
def ObjectKind.ofType (objectType : String) : ObjectKind :=
  if Text.sameWord objectType "table" then .table
  else if Text.sameWord objectType "page" then .page
  else .other

namespace Region

/-- The region's keyword is `keyword`, ignoring case. -/
def isKeyword (region : Region) (keyword : String) : Bool :=
  Text.sameWord region.keyword keyword

/-- The name with its first character in upper case: the display name of a region whose arguments
are not split. -/
def displayName (region : Region) : String :=
  String.ofList (Text.upperFirst region.nameText.toList)

/-- The header of the object that a region declares. A region without a number has number zero. -/
def objectHeader (region : Region) : ObjectHeader :=
  ⟨region.id.getD 0, region.nameText, region.objectType, region.target, region.properties⟩

/-- The table field that a region declares. -/
def toTableField (region : Region) : TableField :=
  let arguments : FieldArguments :=
    if region.isKeyword "field" then Arguments.splitField region.nameText.toList
    else ⟨"", region.displayName, none⟩
  { controlType := region.keyword
    id := arguments.id
    name := arguments.name
    caption := Caption.resolve region.properties arguments.name
    dataType := arguments.dataType
    source := region.source
    properties := region.properties }

/-- The table key that a region declares. -/
def toTableKey (region : Region) : TableKey :=
  let (name, fieldNames) :=
    if region.isKeyword "key" then Arguments.splitKey region.nameText.toList
    else (region.displayName, [])
  { controlType := region.keyword
    name := name
    caption := Caption.resolve region.properties name
    fieldNames := fieldNames
    source := region.source
    properties := region.properties }

/-- The table that a region declares. -/
def toTable (region : Region) : Table :=
  { header := region.objectHeader
    fields := region.children.flatMap fun child =>
      if child.isKeyword "fields" then child.children.map toTableField else []
    keys := region.children.flatMap fun child =>
      if child.isKeyword "keys" then child.children.map toTableKey else []
    fieldGroups := [] }

/-- The page control that a region declares, without what depends on its place: flag, enclosing
control and nested controls. -/
def bareControl (region : Region) : PageControl :=
  let (name, expression) :=
    if region.isKeyword "field" || region.isKeyword "part" then
      Arguments.splitSource region.nameText.toList
    else (region.displayName, "")
  { controlType := region.keyword
    name := name
    caption := Caption.resolve region.properties name
    sourceExpression := expression
    source := region.source
    properties := region.properties }

/-- A control put into its place: the one at `index` of `count` beside each other. -/
def placeControl (control : PageControl) (parent : Option EnclosingControl) (index count : Nat) :
    PageControl :=
  let inherited := (parent.map (·.separator)).getD false
  { control with separator := inherited || Columns.startsSecond index count, parent := parent }

mutual

/-- The control of one region, the one at `index` of `count`, with its nested controls. -/
def toControl (parent : Option EnclosingControl) (index count : Nat) (region : Region) :
    PageControl :=
  let control := placeControl region.bareControl parent index count
  match region with
  | ⟨_, _, _, _, _, _, _, _, children⟩ =>
    { control with
      controls := toControlsFrom (some control.snapshot) 1 children.length children }

/-- The controls of the regions from `index` on, of `count` beside each other. -/
def toControlsFrom (parent : Option EnclosingControl) (index count : Nat) :
    List Region → List PageControl
  | [] => []
  | region :: rest =>
    toControl parent index count region :: toControlsFrom parent (index + 1) count rest

end

/-- One control for each region, in order, each with its own nested controls. -/
def toControls (parent : Option EnclosingControl) (regions : List Region) : List PageControl :=
  toControlsFrom parent 1 regions.length regions

/-- The page that a region declares. -/
def toPage (region : Region) : Page :=
  { header := region.objectHeader
    controls := region.children.flatMap fun child =>
      if child.isKeyword "actions" then [] else toControls none child.children
    actions := region.children.flatMap fun child =>
      if child.isKeyword "actions" then toControls none child.children else [] }

/-- The symbol of the object that a region declares. -/
def toSymbol (region : Region) : ObjectSymbol :=
  match ObjectKind.ofType region.objectType with
  | .table => .table region.toTable
  | .page => .page region.toPage
  | .other => .unsupported region.objectHeader

end Region
end ObjectOutline
