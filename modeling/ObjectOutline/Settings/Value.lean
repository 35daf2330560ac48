import ObjectOutline.Decimal.Shortest
import ObjectOutline.Source.FileTree
import ObjectOutline.Text.Case
import ObjectOutline.Text.Quoted
import ObjectOutline.Toml.Value

/-! Values of settings, and how they are turned into what a setting needs. A value that was read
from a file and not merged since remembers the file, so that a message can name it. -/
namespace ObjectOutline.Settings

/-- A value without parts. -/
inductive Scalar where
  | null
  | boolean (value : Bool)
  | integer (value : Int)
  | float (value : Float)
  | text (value : String)
  deriving Repr, Inhabited

/-- A value, with the file that it comes from. -/
inductive Value where
  | scalar (file : Option String) (value : Scalar)
  | list (file : Option String) (items : List Value)
  | table (file : Option String) (entries : List (String × Value))
  deriving Repr

namespace Value

/-- The value of a setting that nothing was said about. -/
def null : Value := .scalar none .null

instance : Inhabited Value := ⟨null⟩

/-- The file that a value comes from. -/
def file? : Value → Option String
  | scalar file _ => file
  | list file _ => file
  | table file _ => file

mutual

/-- A value of a file. Dates and times become texts. -/
def ofToml (file : Option String) : Toml.Value → Value
  | .string text => .scalar file (.text text)
  | .integer value => .scalar file (.integer value)
  | .float value => .scalar file (.float value)
  | .boolean value => .scalar file (.boolean value)
  | .moment value => .scalar file (.text value.render)
  | .array items => .list file (itemsOfToml file items)
  | .table entries => .table file (entriesOfToml file entries)

/-- The items of a list of a file. -/
def itemsOfToml (file : Option String) : List Toml.Value → List Value
  | [] => []
  | item :: rest => ofToml file item :: itemsOfToml file rest

/-- The entries of a table of a file. -/
def entriesOfToml (file : Option String) : List (String × Toml.Value) → List (String × Value)
  | [] => []
  | (key, value) :: rest => (key, ofToml file value) :: entriesOfToml file rest

end

end Value

/-- A part of the way to a value: a key of a table or an index into a list. -/
inductive Step where
  | key (name : String)
  | index (position : Int)
  deriving DecidableEq, Repr

/-- The way to a value, written with dots and brackets. -/
def renderSteps : List Step → String
  | [] => ""
  | .key name :: rest => name ++ renderRest rest
  | .index position :: rest => "[" ++ toString position ++ "]" ++ renderRest rest
where
  /-- The further parts of the way. -/
  renderRest : List Step → String
    | [] => ""
    | .key name :: rest => "." ++ name ++ renderRest rest
    | .index position :: rest => "[" ++ toString position ++ "]" ++ renderRest rest

/-- Why settings could not be read. -/
inductive Error where
  /-- A value of the wrong type stands at a place. -/
  | wrongType (found expected : String) (place : List Step) (file : Option String)
  /-- Something that is no table stands for a section. -/
  | noSection (found name : String)
  /-- A list that stands for a section is too short. -/
  | shortSection (length : Nat) (name : String) (fields : Nat)
  /-- A section lacks a setting. -/
  | missingSetting (name : String)
  /-- There is no file of that name. -/
  | fileNotFound (name : String)
  /-- The bytes of a file are no text. -/
  | notUtf8
  /-- A file is not well-formed. -/
  | malformedFile
  /-- The place of an override is not well-formed. -/
  | malformedPlace
  deriving DecidableEq, Repr

/-- The wording of a failure. -/
def Error.message : Error → String
  | wrongType found expected place file =>
    "invalid type: " ++ found ++ ", expected " ++ expected ++ " for key `" ++ renderSteps place ++
      "`" ++ (match file with
        | some file => " in " ++ file
        | none => "")
  | noSection found name => "invalid type: " ++ found ++ ", expected struct " ++ name
  | shortSection length name fields =>
    "invalid length " ++ toString length ++ ", expected struct " ++ name ++ " with " ++
      toString fields ++ (if fields = 1 then " element" else " elements")
  | missingSetting name => "missing field `" ++ name ++ "`"
  | fileNotFound name => "configuration file \"" ++ name ++ "\" not found"
  | notUtf8 => FileError.notUtf8.message
  | malformedFile => "(TOML parse error)"
  | malformedPlace => "(key path parse error)"

namespace Value

/-- A value as messages about settings describe it. -/
def describe : Value → String
  | scalar _ .null => "unit value"
  | scalar _ (.boolean value) => "boolean `" ++ toString value ++ "`"
  | scalar _ (.integer value) => "64-bit integer `" ++ toString value ++ "`"
  | scalar _ (.float value) => "floating point `" ++ Decimal.render .plain value ++ "`"
  | scalar _ (.text value) => "string " ++ Text.quoted value
  | list _ _ => "sequence"
  | table _ _ => "map"

/-- A fraction written out, that always shows that it is one. -/
def pointLayout : Decimal.Layout := ⟨fun _ => true, true⟩

/-- A value as messages about sections describe it. -/
def describeForSection : Value → String
  | scalar _ (.integer value) => "integer `" ++ toString value ++ "`"
  | scalar _ (.float value) => "floating point `" ++ Decimal.render pointLayout value ++ "`"
  | value => value.describe

/-- The failure at a value that cannot be turned into what is needed. -/
def mismatch (value : Value) (expected : String) (place : List Step) : Error :=
  .wrongType value.describe expected place value.file?

/-- A value as a text. Numbers and booleans are written out. -/
def toText (place : List Step) (value : Value) : Except Error String :=
  match value with
  | scalar _ (.text text) => .ok text
  | scalar _ (.boolean value) => .ok (toString value)
  | scalar _ (.integer value) => .ok (toString value)
  | scalar _ (.float value) => .ok (Decimal.render .plain value)
  | other => .error (other.mismatch "a string" place)

/-- A value as a boolean. A number is false when it is zero; a text has to be one of eight words in
any letter case. -/
def toBoolean (place : List Step) (value : Value) : Except Error Bool :=
  match value with
  | scalar _ (.boolean value) => .ok value
  | scalar _ (.integer value) => .ok (value != 0)
  | scalar _ (.float value) => .ok (value != 0)
  | scalar file (.text text) =>
    let word := String.ofList (Text.lower text.toList)
    if ["1", "true", "on", "yes"].contains word then .ok true
    else if ["0", "false", "off", "no"].contains word then .ok false
    else .error (mismatch (.scalar file (.text word)) "a boolean" place)
  | other => .error (other.mismatch "a boolean" place)

/-- A run of digits, with or without a plus sign, as a number of 64 bits. -/
def word64? (cs : List Char) : Option Nat :=
  let digits := match cs with
    | '+' :: rest => rest
    | cs => cs
  if digits.isEmpty || !digits.all Char.isDigit then none
  else
    let value := digits.foldl (fun total d => total * 10 + (d.toNat - '0'.toNat)) 0
    if value < UInt64.size then some value else none

/-- A value as a number of 64 bits. Fractions are rounded, halves away from zero, and held between
the bounds; three words stand for one and three for zero. -/
def toWord64 (place : List Step) (value : Value) : Except Error Nat :=
  match value with
  | scalar _ (.integer number) =>
    if 0 ≤ number then .ok number.toNat
    else .error (value.mismatch "an unsigned 64 bit or less integer" place)
  | scalar _ (.boolean value) => .ok (if value then 1 else 0)
  | scalar _ (.float value) => .ok value.round.toUInt64.toNat
  | scalar _ (.text text) =>
    let word := String.ofList (Text.lower text.toList)
    if ["true", "on", "yes"].contains word then .ok 1
    else if ["false", "off", "no"].contains word then .ok 0
    else match word64? text.toList with
      | some number => .ok number
      | none => .error (value.mismatch "an integer" place)
  | other => .error (other.mismatch "an integer" place)

end Value
end ObjectOutline.Settings
