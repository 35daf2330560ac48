import ObjectOutline.Json.Record
import ObjectOutline.Symbol

/-! Decoding: from metadata back to symbols. The member `kind` decides which of the three kinds of
symbol the rest is read as. Lists may be left out, and so may sources and the flag of a control. -/
namespace ObjectOutline

open Json

namespace Property

/-- The record of a property. -/
def shape : Shape := ⟨"Property", ["name", "value"]⟩

/-- Reads a property. -/
def read : Reader Property :=
  readRecord shape fun record => do
    let name ← record.require "name" readString
    let value ← record.require "value" readString
    .ok ⟨name, value⟩

/-- Reads the properties of a record. -/
def readAll (record : Record) : Except ReadError (List Property) :=
  record.getD "properties" [] (readList read)

end Property

namespace ObjectHeader

/-- The record of an object header. -/
def shape : Shape := ⟨"ObjectHeader", ["id", "name", "type", "extends", "properties"]⟩

/-- Reads the fields of an object header. -/
def readFields (record : Record) : Except ReadError ObjectHeader := do
  let id ← record.require "id" readWord32
  let name ← record.require "name" readString
  let objectType ← record.require "type" readString
  let target ← record.getD "extends" none (readOption readString)
  let properties ← Property.readAll record
  .ok ⟨id, name, objectType, target, properties⟩

end ObjectHeader

namespace TableField

/-- The record of a table field. -/
def shape : Shape :=
  ⟨"FieldControl", ["controlType", "id", "name", "caption", "dataType", "source", "properties"]⟩

/-- Reads a table field. -/
def read : Reader TableField :=
  readRecord shape fun record => do
    let controlType ← record.require "controlType" readString
    let id ← record.require "id" readString
    let name ← record.require "name" readString
    let caption ← record.require "caption" readString
    let dataType ← record.getD "dataType" none (readOption readString)
    let source ← record.getD "source" "" readString
    let properties ← Property.readAll record
    .ok ⟨controlType, id, name, caption, dataType, source, properties⟩

end TableField

namespace TableKey

/-- The record of a table key. -/
def shape : Shape :=
  ⟨"KeyControl", ["controlType", "name", "caption", "fieldNames", "source", "properties"]⟩

/-- Reads a table key. -/
def read : Reader TableKey :=
  readRecord shape fun record => do
    let controlType ← record.require "controlType" readString
    let name ← record.require "name" readString
    let caption ← record.require "caption" readString
    let fieldNames ← record.getD "fieldNames" [] (readList readString)
    let source ← record.getD "source" "" readString
    let properties ← Property.readAll record
    .ok ⟨controlType, name, caption, fieldNames, source, properties⟩

end TableKey

namespace FieldGroup

/-- The record of a field group. -/
def shape : Shape := ⟨"Control", ["controlType", "name", "caption", "properties"]⟩

/-- Reads a field group. -/
def read : Reader FieldGroup :=
  readRecord shape fun record => do
    let controlType ← record.require "controlType" readString
    let name ← record.require "name" readString
    let caption ← record.require "caption" readString
    let properties ← Property.readAll record
    .ok ⟨controlType, name, caption, properties⟩

end FieldGroup

namespace EnclosingControl

/-- The record of what a control keeps of the control around it. -/
def shape : Shape := ⟨"ParentSnapshot", ["controlType", "name", "separator"]⟩

/-- Reads what a control keeps of the control around it. -/
def read : Reader EnclosingControl :=
  readRecord shape fun record => do
    let controlType ← record.require "controlType" readString
    let name ← record.require "name" readString
    let separator ← record.require "separator" readBool
    .ok ⟨controlType, name, separator⟩

end EnclosingControl

namespace PageControl

/-- The record of a page control. -/
def shape : Shape :=
  ⟨"PageControl", ["controlType", "name", "caption", "sourceExpression", "source", "properties",
    "separator", "parent", "controls"]⟩

/-- Reads the fields of a page control; `nested` is what was read for the controls inside it. -/
def readFields (nested : Except ReadError (List PageControl)) (record : Record) :
    Except ReadError PageControl := do
  let controlType ← record.require "controlType" readString
  let name ← record.require "name" readString
  let caption ← record.require "caption" readString
  let sourceExpression ← record.getD "sourceExpression" "" readString
  let source ← record.getD "source" "" readString
  let properties ← Property.readAll record
  let separator ← record.getD "separator" false readBool
  let parent ← record.getD "parent" none (readOption EnclosingControl.read)
  let controls ← nested
  .ok ⟨controlType, name, caption, sourceExpression, source, properties, separator, parent,
    controls⟩

mutual

/-- Reads a page control, with the controls nested in it. -/
def read : Json → Except ReadError PageControl
  | .object members => readRecord shape (readFields (readMember members)) (.object members)
  | .array items => readRecord shape (readFields (readItemAt 8 items)) (.array items)
  | value => .error (wrongType (.record shape.name) value)

/-- Reads the nested controls out of the members of an object. -/
def readMember : List (String × Json) → Except ReadError (List PageControl)
  | [] => .ok []
  | (key, value) :: rest => if key = "controls" then readAll value else readMember rest

/-- Reads the nested controls out of the item at an index of an array. -/
def readItemAt : Nat → List Json → Except ReadError (List PageControl)
  | _, [] => .ok []
  | 0, value :: _ => readAll value
  | index + 1, _ :: rest => readItemAt index rest

/-- Reads a list of page controls. -/
def readAll : Json → Except ReadError (List PageControl)
  | .array items => readEach items
  | value => .error (wrongType .sequence value)

/-- Reads each item of a list as a page control. -/
def readEach : List Json → Except ReadError (List PageControl)
  | [] => .ok []
  | item :: items => do
    let first ← read item
    let rest ← readEach items
    .ok (first :: rest)

end

end PageControl

namespace Table

/-- Reads the fields of a table. -/
def readFields (record : Record) : Except ReadError Table := do
  let header ← ObjectHeader.readFields record
  let fields ← record.getD "fields" [] (readList TableField.read)
  let keys ← record.getD "keys" [] (readList TableKey.read)
  let fieldGroups ← record.getD "fieldGroups" [] (readList FieldGroup.read)
  .ok ⟨header, fields, keys, fieldGroups⟩

end Table

namespace Page

/-- Reads the fields of a page. -/
def readFields (record : Record) : Except ReadError Page := do
  let header ← ObjectHeader.readFields record
  let controls ← record.getD "controls" [] PageControl.readAll
  let actions ← record.getD "actions" [] PageControl.readAll
  .ok ⟨header, controls, actions⟩

end Page

namespace ObjectSymbol

/-- The names of the kinds of symbols. -/
def kinds : List String := ["table", "page", "unsupported"]

/-- Reads the members of a symbol of the given kind. -/
def readMembers (kind : String) (members : List (String × Json)) :
    Except ReadError ObjectSymbol :=
  let record : Record := .named ObjectHeader.shape members
  match kind with
  | "table" => (Table.readFields record).map .table
  | "page" => (Page.readFields record).map .page
  | "unsupported" => (ObjectHeader.readFields record).map .unsupported
  | _ => .error (.unknownKind kind kinds)

/-- Reads the items of a symbol of the given kind. Only a bare header can be written like this. -/
def readListed (kind : String) (items : List Json) : Except ReadError ObjectSymbol :=
  match kind with
  | "table" => .error (wrongType (.record "Table") (.array items))
  | "page" => .error (wrongType (.record "Page") (.array items))
  | "unsupported" =>
    (readRecord ObjectHeader.shape ObjectHeader.readFields (.array items)).map .unsupported
  | _ => .error (.unknownKind kind kinds)

/-- Reads the kind of a symbol. -/
def readKind : Reader String
  | .string kind => .ok kind
  | value => .error (wrongType .kindName value)

/-- Reads a symbol. -/
def read : Reader ObjectSymbol
  | .object members => do
    let kind ← match members.lookup "kind" with
      | some value => readKind value
      | none => .error (.missingField "kind")
    readMembers kind members
  | .array items => do
    match items with
    | [] => .error (.missingField "kind")
    | value :: rest =>
      let kind ← readKind value
      readListed kind rest
  | value => .error (wrongType (.taggedUnion "SymbolObject") value)

end ObjectSymbol
end ObjectOutline
