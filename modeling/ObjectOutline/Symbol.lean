import ObjectOutline.Property
import ObjectOutline.Text.Number

/-! Symbols: the typed form of an object. Tables and pages have collections of their own; of any
other object only the header is kept. Texts are kept as the source gives them, so a field number is
a text here and a number only when it is asked for. -/
namespace ObjectOutline

/-- What every object has. The object type is lower-cased, and empty when no header was recognised;
the target is the object that this one extends. -/
structure ObjectHeader where
  id : UInt32 := 0
  name : String := ""
  objectType : String := ""
  target : Option String := none
  properties : List Property := []
  deriving DecidableEq, Repr, Inhabited

/-- A field of a table. -/
structure TableField where
  controlType : String := ""
  id : String := ""
  name : String := ""
  caption : String := ""
  dataType : Option String := none
  source : String := ""
  properties : List Property := []
  deriving DecidableEq, Repr, Inhabited

/-- The field number, when the text of the id is one. -/
def TableField.number? (field : TableField) : Option UInt32 :=
  Text.signedWord32? field.id.toList

/-- A key of a table. -/
structure TableKey where
  controlType : String := ""
  name : String := ""
  caption : String := ""
  fieldNames : List String := []
  source : String := ""
  properties : List Property := []
  deriving DecidableEq, Repr, Inhabited

/-- A field group of a table. -/
structure FieldGroup where
  controlType : String := ""
  name : String := ""
  caption : String := ""
  properties : List Property := []
  deriving DecidableEq, Repr, Inhabited

/-- A table. Its first key is the primary key. -/
structure Table where
  header : ObjectHeader := {}
  fields : List TableField := []
  keys : List TableKey := []
  fieldGroups : List FieldGroup := []
  deriving DecidableEq, Repr, Inhabited

namespace Table

/-- The first field of that name. -/
def field? (table : Table) (name : String) : Option TableField :=
  table.fields.find? fun field => field.name == name

/-- The names of the fields, in order. -/
def fieldNames (table : Table) : List String :=
  table.fields.map (·.name)

/-- The first key. -/
def primaryKey? (table : Table) : Option TableKey :=
  table.keys.head?

end Table

/-- What a control keeps of the control around it: a copy, made when the control was built. -/
structure EnclosingControl where
  controlType : String := ""
  name : String := ""
  separator : Bool := false
  deriving DecidableEq, Repr, Inhabited

/-- A control of a page, with the controls nested in it. The separator flag says that the control
stands in the second column. -/
structure PageControl where
  controlType : String := ""
  name : String := ""
  caption : String := ""
  sourceExpression : String := ""
  source : String := ""
  properties : List Property := []
  separator : Bool := false
  parent : Option EnclosingControl := none
  controls : List PageControl := []
  deriving BEq, Repr, Inhabited

namespace PageControl

/-- What the controls nested in this one keep of it. -/
def snapshot (control : PageControl) : EnclosingControl :=
  ⟨control.controlType, control.name, control.separator⟩

mutual

/-- The control and every control nested in it, each before what it holds. -/
def preorder (control : PageControl) : List PageControl :=
  match control with
  | ⟨_, _, _, _, _, _, _, _, controls⟩ => control :: preorderAll controls

/-- Every control of a list of trees. -/
def preorderAll : List PageControl → List PageControl
  | [] => []
  | control :: rest => preorder control ++ preorderAll rest

end

theorem preorder_eq (control : PageControl) :
    control.preorder = control :: preorderAll control.controls := by
  cases control
  rw [preorder]

end PageControl

/-- A page. -/
structure Page where
  header : ObjectHeader := {}
  controls : List PageControl := []
  actions : List PageControl := []
  deriving BEq, Repr, Inhabited

namespace Page

/-- The value of the page's `PageType` property. -/
def pageType? (page : Page) : Option String :=
  (Property.lookup? page.header.properties "PageType").map (·.value)

/-- Every control of the layout, each before what it holds. Actions are not among them. -/
def allControls (page : Page) : List PageControl :=
  PageControl.preorderAll page.controls

/-- The controls of the layout that are fields. -/
def fields (page : Page) : List PageControl :=
  page.allControls.filter (·.controlType == "field")

end Page

/-- The typed form of an object. -/
inductive ObjectSymbol where
  | table (table : Table)
  | page (page : Page)
  | unsupported (header : ObjectHeader)
  deriving BEq, Repr

namespace ObjectSymbol

/-- The symbol of a source in which no object was found. -/
def unparsed : ObjectSymbol := .unsupported {}

instance : Inhabited ObjectSymbol := ⟨unparsed⟩

/-- The header, whatever kind of object it is. -/
def header : ObjectSymbol → ObjectHeader
  | .table symbol => symbol.header
  | .page symbol => symbol.header
  | .unsupported symbol => symbol

/-- An object header was recognised. -/
def isParsed (symbol : ObjectSymbol) : Bool :=
  symbol.header.objectType != ""

end ObjectSymbol
end ObjectOutline
