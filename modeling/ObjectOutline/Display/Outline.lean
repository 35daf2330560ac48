import ObjectOutline.Display.Tree
import ObjectOutline.Symbol
import ObjectOutline.Text.Identifier

/-! The outline of an object: a tree of its sections, controls and, when asked for, properties.
Controls in the second column are marked at the end of their label. -/
namespace ObjectOutline.Display

/-- The icon of a control, ignoring the case of its type. -/
def controlIcon (controlType : String) : Icon :=
  match String.ofList (Text.lowerAscii controlType.toList) with
  | "field" => .field
  | "part" | "systempart" => .part
  | "group" | "cuegroup" | "fixed" | "grid" => .group
  | "area" => .area
  | "repeater" => .repeater
  | "action" => .action
  | "key" => .key
  | _ => .otherControl

/-- The node of a property. -/
def propertyNode (property : Property) : Node :=
  { icon := .property, label := property.name ++ " = " ++ property.value }

/-- The nodes of some properties, if properties are shown. -/
def propertyNodes (showProperties : Bool) (properties : List Property) : List Node :=
  if showProperties then properties.map propertyNode else []

/-- The node of a table field. -/
def fieldNode (showProperties : Bool) (field : TableField) : Node :=
  let name := field.id ++ " " ++ field.name
  { icon := controlIcon field.controlType
    label := match field.dataType with
      | some dataType => name ++ " : " ++ dataType
      | none => name
    children := propertyNodes showProperties field.properties }

/-- The node of a table key. -/
def keyNode (showProperties : Bool) (key : TableKey) : Node :=
  { icon := controlIcon key.controlType
    label := key.name ++ " (" ++ String.intercalate ", " key.fieldNames ++ ")"
    children := propertyNodes showProperties key.properties }

/-- The label of a page control, with the mark of the second column. -/
def controlLabel (controlType caption : String) (separator : Bool) : String :=
  let text := if caption = "" then controlType else controlType ++ " " ++ caption
  if separator then text ++ " ‖" else text

mutual

/-- The node of a page control. Its properties come before the controls nested in it. -/
def controlNode (showProperties : Bool) : PageControl → Node
  | ⟨controlType, _, caption, _, _, properties, separator, _, controls⟩ =>
    { icon := controlIcon controlType
      label := controlLabel controlType caption separator
      children := propertyNodes showProperties properties ++ controlNodes showProperties controls }

/-- The nodes of the page controls beside each other. -/
def controlNodes (showProperties : Bool) : List PageControl → List Node
  | [] => []
  | control :: rest => controlNode showProperties control :: controlNodes showProperties rest

end

/-- The node of a named part of an object. -/
def sectionNode (name : String) (children : List Node) : Node :=
  { icon := .section, label := name, children }

/-- The type, the number and the name of an object. -/
def objectLabel (header : ObjectHeader) : String :=
  header.objectType ++ " " ++ toString header.id.toNat ++ " " ++ header.name

/-- The outline of an object. An object without a recognised header has one node, without
properties. -/
def outline (showProperties : Bool) : ObjectSymbol → Node
  | .table table =>
    { icon := .table
      label := objectLabel table.header
      children := propertyNodes showProperties table.header.properties ++
        [sectionNode "fields" (table.fields.map (fieldNode showProperties)),
          sectionNode "keys" (table.keys.map (keyNode showProperties))] }
  | .page page =>
    { icon := .page
      label := objectLabel page.header
      children := propertyNodes showProperties page.header.properties ++
        [sectionNode "controls" (controlNodes showProperties page.controls),
          sectionNode "actions" (controlNodes showProperties page.actions)] }
  | .unsupported header =>
    if header.objectType = "" then { icon := .unparsed, label := "unparsed object" }
    else
      { icon := .otherObject
        label := objectLabel header
        children := propertyNodes showProperties header.properties }

/-- The outline of an object as text. -/
def renderOutline (showProperties : Bool) (symbol : ObjectSymbol) : String :=
  (outline showProperties symbol).render

end ObjectOutline.Display
