import ObjectOutline.Json
import ObjectOutline.Text.Quoted

/-! Reading records out of JSON. A record has named fields in a fixed order and is written as an
object, or as an array that holds the fields in that order. Unknown members of an object are passed
over; fields at the end of an array may be left out when they have a default. -/
namespace ObjectOutline.Json

/-- What a reader was prepared to find. -/
inductive Expected where
  | word32
  | string
  | boolean
  | sequence
  | path
  | kindName
  | taggedUnion (name : String)
  | record (name : String)
  deriving DecidableEq, Repr

/-- The wording of an expectation. -/
def Expected.describe : Expected → String
  | .word32 => "u32"
  | .string => "a string"
  | .boolean => "a boolean"
  | .sequence => "a sequence"
  | .path => "path string"
  | .kindName => "variant identifier"
  | .taggedUnion name => "internally tagged enum " ++ name
  | .record name => "struct " ++ name

/-- A value as messages describe it. -/
def describe : Json → String
  | .null => "null"
  | .bool value => "boolean `" ++ toString value ++ "`"
  | .integer value => "integer `" ++ toString value ++ "`"
  | .float value => "floating point `" ++ floatText value ++ "`"
  | .string value => "string " ++ Text.quoted value
  | .array _ => "sequence"
  | .object _ => "map"

/-- Why a value could not be read. -/
inductive ReadError where
  /-- A field without a default is not there. -/
  | missingField (name : String)
  /-- The kind is none of the known ones. -/
  | unknownKind (name : String) (known : List String)
  /-- A value of another type stands there. -/
  | invalidType (found : String) (expected : Expected)
  /-- An integer stands there that does not fit. -/
  | outOfRange (value : Int) (expected : Expected)
  /-- An array ends before a field without a default. -/
  | tooShort (length : Nat) (record : String) (fields : Nat)
  /-- An array inside a larger value has more items than the record has fields. -/
  | tooLong (length : Nat) (fields : Nat)
  /-- An array that is the whole value has more items than the record has fields. -/
  | tooLongAlone (length : Nat)
  deriving DecidableEq, Repr

/-- Names in back quotes, separated by commas. -/
def listNames (names : List String) : String :=
  String.intercalate ", " (names.map fun name => "`" ++ name ++ "`")

/-- The wording of a failure. -/
def ReadError.message : ReadError → String
  | missingField name => "missing field `" ++ name ++ "`"
  | unknownKind name known =>
    "unknown variant `" ++ name ++ "`, expected one of " ++ listNames known
  | invalidType found expected => "invalid type: " ++ found ++ ", expected " ++ expected.describe
  | outOfRange value expected =>
    "invalid value: integer `" ++ toString value ++ "`, expected " ++ expected.describe
  | tooShort length record fields =>
    "invalid length " ++ toString length ++ ", expected struct " ++ record ++ " with " ++
      toString fields ++ " elements"
  | tooLong length fields =>
    "invalid length " ++ toString length ++ ", expected " ++ toString fields ++
      " elements in sequence"
  | tooLongAlone length =>
    "invalid length " ++ toString length ++ ", expected fewer elements in array"

/-- Reads a value. -/
abbrev Reader (α : Type) := Json → Except ReadError α

/-- The failure at a value of the wrong type. -/
def wrongType (expected : Expected) (value : Json) : ReadError :=
  .invalidType value.describe expected

/-- Reads a string. -/
def readString : Reader String
  | .string value => .ok value
  | value => .error (wrongType .string value)

/-- Reads a string or null. -/
def readOption {α : Type} (read : Reader α) : Reader (Option α)
  | .null => .ok none
  | value => (read value).map some

/-- Reads a boolean. -/
def readBool : Reader Bool
  | .bool value => .ok value
  | value => .error (wrongType .boolean value)

/-- Reads an integer of 32 bits. -/
def readWord32 : Reader UInt32
  | .integer value =>
    if 0 ≤ value ∧ value < UInt32.size then .ok (UInt32.ofNat value.toNat)
    else .error (.outOfRange value .word32)
  | value => .error (wrongType .word32 value)

/-- Reads every item of a list. -/
def readItems {α : Type} (read : Reader α) : List Json → Except ReadError (List α)
  | [] => .ok []
  | item :: items => do
    let first ← read item
    let rest ← readItems read items
    .ok (first :: rest)

/-- Reads a list. -/
def readList {α : Type} (read : Reader α) : Reader (List α)
  | .array items => readItems read items
  | value => .error (wrongType .sequence value)

/-- The name of a record and the names of its fields, in order. -/
structure Shape where
  name : String
  fields : List String

/-- The written fields of a record. -/
inductive Record where
  | named (shape : Shape) (members : List (String × Json))
  | listed (shape : Shape) (items : List Json)

namespace Record

/-- What is written for a field. -/
def find? : Record → String → Option Json
  | named _ members, field => members.lookup field
  | listed shape items, field => (shape.fields.idxOf? field).bind fun index => items[index]?

/-- The failure when a field without a default is not written. -/
def missing : Record → String → ReadError
  | named _ _, field => .missingField field
  | listed shape items, _ => .tooShort items.length shape.name shape.fields.length

/-- Reads a field that has no default. -/
def require {α : Type} (record : Record) (field : String) (read : Reader α) :
    Except ReadError α :=
  match record.find? field with
  | some value => read value
  | none => .error (record.missing field)

/-- Reads a field, or takes its default. -/
def getD {α : Type} (record : Record) (field : String) (default : α) (read : Reader α) :
    Except ReadError α :=
  match record.find? field with
  | some value => read value
  | none => .ok default

/-- Refuses an array with more items than the record has fields. -/
def checkLength : Record → Except ReadError Unit
  | named _ _ => .ok ()
  | listed shape items =>
    if shape.fields.length < items.length then .error (.tooLong items.length shape.fields.length)
    else .ok ()

end Record

/-- The record that a value writes. -/
def toRecord (shape : Shape) : Json → Except ReadError Record
  | .object members => .ok (.named shape members)
  | .array items => .ok (.listed shape items)
  | value => .error (wrongType (.record shape.name) value)

/-- Reads a record: its fields first, its length last. -/
def readRecord {α : Type} (shape : Shape) (read : Record → Except ReadError α) : Reader α :=
  fun value => do
    let record ← toRecord shape value
    let result ← read record
    record.checkLength
    .ok result

end ObjectOutline.Json
