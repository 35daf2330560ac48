import ObjectOutline.Json
import ObjectOutline.Symbol

/-! Metadata: symbols written as JSON. The member `kind` comes first, the header is not nested, and
an absent target, data type or enclosing control has no member. The order of the members is the
order in which the text formats show them. -/
namespace ObjectOutline

/-- A member that is left out when its value is absent. -/
def Json.optionalMember (key : String) (value : Option Json) : List (String × Json) :=
  match value with
  | some value => [(key, value)]
  | none => []

/-- The metadata of a property. -/
def Property.toJson (property : Property) : Json :=
  .object [("name", .string property.name), ("value", .string property.value)]

/-- The metadata of a list of properties. -/
def Property.listToJson (properties : List Property) : Json :=
  .array (properties.map toJson)

/-- The members that every object has. -/
def ObjectHeader.members (header : ObjectHeader) : List (String × Json) :=
  [("id", .integer header.id.toNat), ("name", .string header.name),
    ("type", .string header.objectType)] ++
  Json.optionalMember "extends" (header.target.map .string) ++
  [("properties", Property.listToJson header.properties)]

/-- The metadata of a table field. -/
def TableField.toJson (field : TableField) : Json :=
  .object (
    [("controlType", .string field.controlType), ("id", .string field.id),
      ("name", .string field.name), ("caption", .string field.caption)] ++
    Json.optionalMember "dataType" (field.dataType.map .string) ++
    [("source", .string field.source), ("properties", Property.listToJson field.properties)])

/-- The metadata of a table key. -/
def TableKey.toJson (key : TableKey) : Json :=
  .object [("controlType", .string key.controlType), ("name", .string key.name),
    ("caption", .string key.caption), ("fieldNames", Json.strings key.fieldNames),
    ("source", .string key.source), ("properties", Property.listToJson key.properties)]

/-- The metadata of a field group. -/
def FieldGroup.toJson (group : FieldGroup) : Json :=
  .object [("controlType", .string group.controlType), ("name", .string group.name),
    ("caption", .string group.caption), ("properties", Property.listToJson group.properties)]

/-- The metadata of what a control keeps of the control around it. -/
def EnclosingControl.toJson (parent : EnclosingControl) : Json :=
  .object [("controlType", .string parent.controlType), ("name", .string parent.name),
    ("separator", .bool parent.separator)]

namespace PageControl

mutual

/-- The metadata of a page control, nested controls included. -/
def toJson : PageControl → Json
  | ⟨controlType, name, caption, sourceExpression, source, properties, separator, parent,
      controls⟩ =>
    .object (
      [("controlType", .string controlType), ("name", .string name), ("caption", .string caption),
        ("sourceExpression", .string sourceExpression), ("source", .string source),
        ("properties", Property.listToJson properties), ("separator", .bool separator)] ++
      Json.optionalMember "parent" (parent.map EnclosingControl.toJson) ++
      [("controls", .array (listToJson controls))])

/-- The metadata of each control of a list. -/
def listToJson : List PageControl → List Json
  | [] => []
  | control :: rest => toJson control :: listToJson rest

end

end PageControl

/-- The metadata of a symbol. -/
def ObjectSymbol.toJson : ObjectSymbol → Json
  | .table symbol => .object (
    ("kind", .string "table") :: symbol.header.members ++
    [("fields", .array (symbol.fields.map TableField.toJson)),
      ("keys", .array (symbol.keys.map TableKey.toJson)),
      ("fieldGroups", .array (symbol.fieldGroups.map FieldGroup.toJson))])
  | .page symbol => .object (
    ("kind", .string "page") :: symbol.header.members ++
    [("controls", .array (PageControl.listToJson symbol.controls)),
      ("actions", .array (PageControl.listToJson symbol.actions))])
  | .unsupported header => .object (("kind", .string "unsupported") :: header.members)

end ObjectOutline
