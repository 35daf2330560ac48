import ObjectOutline.Source.Load
import ObjectOutline.Symbol.Decode
import ObjectOutline.Symbol.Metadata

/-! Catalogs: lists of known objects, each with its metadata or the path of its source. An object is
looked up by type and number; the first item that fits answers, with its metadata if it has any. -/
namespace ObjectOutline

/-- One known object. -/
structure CatalogItem where
  id : UInt32
  objectType : String
  name : String := ""
  path : Option String := none
  metadata : Option Json := none
  deriving Repr

namespace CatalogItem

/-- The two items stand for the same object: same number, and same type ignoring case. -/
def sameObject (item other : CatalogItem) : Bool :=
  item.id == other.id && Text.sameWord item.objectType other.objectType

/-- The item of a symbol, with its metadata. -/
def ofSymbol (symbol : ObjectSymbol) : CatalogItem :=
  { id := symbol.header.id
    objectType := symbol.header.objectType
    name := symbol.header.name
    metadata := some symbol.toJson }

/-- The record of a catalog item. -/
def shape : Json.Shape := ⟨"CollectorItem", ["id", "type", "name", "fsPath", "symbolData"]⟩

/-- Reads a path. -/
def readPath : Json.Reader String
  | .string path => .ok path
  | value => .error (Json.wrongType .path value)

/-- Reads the fields of a catalog item. -/
def readFields (record : Json.Record) : Except Json.ReadError CatalogItem := do
  let id ← record.require "id" Json.readWord32
  let objectType ← record.require "type" Json.readString
  let name ← record.getD "name" "" Json.readString
  let path ← record.getD "fsPath" none (Json.readOption readPath)
  let metadata ← record.getD "symbolData" none (Json.readOption .ok)
  .ok ⟨id, objectType, name, path, metadata⟩

/-- Reads a catalog item. -/
def read (value : Json) : Except Json.ReadError CatalogItem := do
  let record ← Json.toRecord shape value
  let item ← readFields record
  match record with
  | .named _ _ => .ok item
  | .listed shape items =>
    if shape.fields.length < items.length then .error (.tooLongAlone items.length) else .ok item

end CatalogItem

/-- Why an object could not be looked up. -/
inductive LookupError where
  /-- There is no catalog to look in. -/
  | noCatalog
  /-- No item fits. -/
  | objectNotFound (objectType : String) (id : UInt32)
  /-- The item has neither metadata nor a path. -/
  | missingMetadata (objectType : String) (id : UInt32)
  /-- The metadata of the item cannot be decoded. -/
  | malformed (cause : Json.ReadError)
  /-- The source of the item cannot be read. -/
  | unreadable (cause : LoadError)
  deriving DecidableEq, Repr

/-- The wording of a failure. -/
def LookupError.message : LookupError → String
  | noCatalog => "symbol lookup requires an object collector"
  | objectNotFound objectType id => objectType ++ " " ++ toString id.toNat ++ " not found"
  | missingMetadata objectType id =>
    objectType ++ " " ++ toString id.toNat ++ " has no symbol data"
  | malformed cause => "malformed symbol metadata: " ++ cause.message
  | unreadable cause => cause.message

/-- The known objects, in order. -/
abbrev Catalog := List CatalogItem

namespace Catalog

/-- Adds a symbol at the end. -/
def withSymbol (catalog : Catalog) (symbol : ObjectSymbol) : Catalog :=
  catalog ++ [.ofSymbol symbol]

/-- Decodes the metadata of a symbol. -/
def decode (metadata : Json) : Except LookupError ObjectSymbol :=
  (ObjectSymbol.read metadata).mapError .malformed

/-- The object that an item stands for. Nothing is reported about an object that comes from
metadata. -/
def resolve (files : FileReader) (maxDepth : Nat) (item : CatalogItem) :
    Except LookupError Parsed :=
  match item.metadata, item.path with
  | some metadata, _ => (decode metadata).map fun symbol => ⟨symbol, []⟩
  | none, some path => (Source.parse files maxDepth path).mapError .unreadable
  | none, none => .error (.missingMetadata item.objectType item.id)

/-- Looks up the object that the query stands for. -/
def lookup (catalog : Option Catalog) (files : FileReader) (maxDepth : Nat)
    (query : CatalogItem) : Except LookupError Parsed :=
  match catalog with
  | none => .error .noCatalog
  | some items =>
    match items.find? (·.sameObject query) with
    | some item => resolve files maxDepth item
    | none => .error (.objectNotFound query.objectType query.id)

end Catalog
end ObjectOutline
