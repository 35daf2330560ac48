import ObjectOutline.Display.Outline
import ObjectOutline.Symbol.Metadata
import ObjectOutline.Yaml.Block

/-! Output formats and the registry that finds them by name. The registry lists its formats in the
order of their names, and holds one format of each name. -/
namespace ObjectOutline

/-- Why an object could not be written. -/
inductive FormatError where
  /-- There is no format of that name. -/
  | notFound (name : String)
  /-- The format could not write the object. -/
  | failed (reason : String)
  deriving DecidableEq, Repr

/-- The wording of a failure. -/
def FormatError.message : FormatError → String
  | notFound name => "Format '" ++ name ++ "' not found"
  | failed reason => "Serialization error: " ++ reason

/-- A way of writing objects. -/
structure Format where
  name : String
  description : String
  write : ObjectSymbol → Except FormatError String

namespace Format

/-- The tree of an object, drawn with box characters. -/
def tree (showProperties : Bool) : Format :=
  ⟨"treeviz", "Visual tree representation with indentation and Unicode icons",
    fun symbol => .ok (Display.renderOutline showProperties symbol)⟩

/-- The metadata of an object as JSON. -/
def json : Format :=
  ⟨"json", "JSON symbol tree, readable back as symbol metadata",
    fun symbol => .ok symbol.toJson.pretty⟩

/-- The metadata of an object as YAML. -/
def yaml : Format :=
  ⟨"yaml", "YAML symbol tree", fun symbol => .ok (Yaml.render symbol.toJson)⟩

end Format

/-- The known formats, in the order of their names. -/
structure Registry where
  formats : List Format

namespace Registry

/-- The registry without formats. -/
def empty : Registry := ⟨[]⟩

/-- Puts a format at its place in a sorted list. It replaces one of the same name. -/
def insert (format : Format) : List Format → List Format
  | [] => [format]
  | first :: rest =>
    if format.name = first.name then format :: rest
    else if format.name < first.name then format :: first :: rest
    else first :: insert format rest

/-- Adds a format, or replaces the one of its name. -/
def register (registry : Registry) (format : Format) : Registry :=
  ⟨insert format registry.formats⟩

/-- The three formats that are always there. -/
def standard (showProperties : Bool) : Registry :=
  ((empty.register (.tree showProperties)).register .json).register .yaml

/-- The format of that name. -/
def get? (registry : Registry) (name : String) : Option Format :=
  registry.formats.find? fun format => format.name == name

/-- The names of the formats, sorted. -/
def names (registry : Registry) : List String :=
  registry.formats.map (·.name)

/-- Writes an object in the format of that name. -/
def write (registry : Registry) (name : String) (symbol : ObjectSymbol) :
    Except FormatError String :=
  match registry.get? name with
  | some format => format.write symbol
  | none => .error (.notFound name)

end Registry
end ObjectOutline
