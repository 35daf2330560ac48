import ObjectOutline.Format
import ObjectOutline.Settings.Place
import ObjectOutline.Source.Load
import ObjectOutline.Toml.Document

/-! Settings. They are put together in layers: the defaults, then files, then single overrides, each
layer on top of those before it. Unknown settings are passed over. -/
namespace ObjectOutline

/-- What can be set. -/
structure Settings where
  maxDepth : Nat
  format : String
  showProperties : Bool
  filter : String
  deriving DecidableEq, Repr

namespace Settings

/-- The settings that hold when nothing else is said. -/
def defaults : Value :=
  .table none [
    ("parser", .table none [("max_depth", .scalar none (.integer 64))]),
    ("output", .table none [("format", .scalar none (.text "treeviz")),
      ("show_properties", .scalar none (.boolean false))]),
    ("logging", .table none [("filter", .scalar none (.text "warn"))])]

/-- The other name under which a file is looked for: the name with the extension of the format
added. A name that ends in no proper part has none. -/
def nameWithExtension? (name : String) : Option String :=
  let parts := pathParts name
  let named := (parts.reverse.dropWhile fun part => part = "" ∨ part = ".").reverse
  match named.getLast? with
  | none => none
  | some ".." => none
  | some _ => some (String.intercalate "/" named ++ ".toml")

/-- The names under which a file is looked for, in order. -/
def candidates (name : String) : List String :=
  name :: (nameWithExtension? name).toList

/-- The first of some names under which there is a file, and what the file holds. -/
def findFile? (files : FileReader) : List String → Option (String × List UInt8)
  | [] => none
  | name :: rest =>
    match files name with
    | .ok bytes => some (name, bytes)
    | .error _ => findFile? files rest

/-- A path as messages name it: without parts that stay where they are. -/
def shownPath (path : String) : String :=
  String.intercalate "/" (namedParts path)

/-- Puts an entry of a file on top of the settings so far. Its key is read as a place if it is
one. -/
def putEntry (target : Value) (key : String) (value : Value) : Value :=
  match readPlace? key with
  | some place => value.put place target
  | none => value.assign key target

/-- Puts a file on top of the settings so far. One byte order mark in front of it is dropped. -/
def addFile (files : FileReader) (target : Value) (name : String) :
    Except Error Value :=
  match findFile? files (candidates name) with
  | none => .error (.fileNotFound name)
  | some (path, bytes) =>
    match Text.decode? bytes with
    | none => .error .notUtf8
    | some text =>
      match Toml.parse? (Text.dropByteOrderMark text) with
      | none => .error .malformedFile
      | some entries =>
        .ok (entries.foldl (fun target (key, value) =>
          putEntry target key (.ofToml (some (shownPath path)) value)) target)

/-- An override: the place of a setting and its value. -/
structure Override where
  place : List Step
  value : Scalar
  deriving Repr

/-- Reads an override. -/
def Override.read (place : String) (value : Scalar) : Except Error Override :=
  match readPlace? place with
  | some steps => .ok ⟨steps, value⟩
  | none => .error .malformedPlace

/-- Puts an override on top of the settings so far. -/
def addOverride (target : Value) (override : Override) : Value :=
  Value.put (.scalar none override.value) override.place target

/-- The name of a section in messages, its key, and the names of its settings in order. -/
structure SectionShape where
  name : String
  key : String
  settings : List String

/-- The values of the settings of a section, each with its place. A list gives them in order. -/
def sectionValue (shape : SectionShape) (root : Value) (setting : String) :
    Except Error (List Step × Value) :=
  match root.entries.lookup shape.key with
  | none => .error (.missingSetting shape.key)
  | some (.table _ entries) =>
    match entries.lookup setting with
    | some value => .ok ([.key shape.key, .key setting], value)
    | none => .error (.missingSetting setting)
  | some (.list _ items) =>
    let index := (shape.settings.idxOf? setting).getD 0
    match items[index]? with
    | some value => .ok ([.key shape.key, .index index], value)
    | none => .error (.shortSection items.length shape.name shape.settings.length)
  | some value => .error (.noSection value.describeForSection shape.name)

/-- Reads one setting of a section. -/
def readSetting {α : Type} (shape : SectionShape) (root : Value) (setting : String)
    (read : List Step → Value → Except Error α) : Except Error α := do
  let (place, value) ← sectionValue shape root setting
  read place value

/-- The section about reading sources. -/
def parserSection : SectionShape := ⟨"ParserConfig", "parser", ["max_depth"]⟩

/-- The section about output. -/
def outputSection : SectionShape := ⟨"OutputConfig", "output", ["format", "show_properties"]⟩

/-- The section about the log. -/
def loggingSection : SectionShape := ⟨"LoggingConfig", "logging", ["filter"]⟩

/-- Reads the settings out of their layers. -/
def ofValue (root : Value) : Except Error Settings := do
  let maxDepth ← readSetting parserSection root "max_depth" Value.toWord64
  let format ← readSetting outputSection root "format" Value.toText
  let showProperties ← readSetting outputSection root "show_properties" Value.toBoolean
  let filter ← readSetting loggingSection root "filter" Value.toText
  .ok ⟨maxDepth, format, showProperties, filter⟩

/-- The settings made of the defaults, some files and some overrides. -/
def load (files : FileReader) (names : List String) (overrides : List Override) :
    Except Error Settings := do
  let layered ← names.foldlM (addFile files) defaults
  ofValue (overrides.foldl addOverride layered)

/-- The formats that the settings give. -/
def registry (settings : Settings) : Registry :=
  .standard settings.showProperties

/-- Writes an object in the format that the settings name. -/
def write (settings : Settings) (symbol : ObjectSymbol) : Except FormatError String :=
  settings.registry.write settings.format symbol

end Settings
end ObjectOutline
