import ObjectOutline.Text.Lines

/-! Arguments: what the parentheses of a header hold, split at semicolons. A field of a table has a
number, a name and a data type, a field of a page a name and an expression, a key a name and a list
of field names. -/
namespace ObjectOutline

/-- The arguments of a table field. -/
structure FieldArguments where
  id : String
  name : String
  dataType : Option String
  deriving DecidableEq, Repr

namespace Arguments

/-- A trimmed text. -/
def trimmed (cs : List Char) : String :=
  String.ofList (Text.trim cs)

/-- A text without its double quotes, trimmed. -/
def unquoted (cs : List Char) : String :=
  String.ofList (Text.stripQuotes cs)

/-- The name and the source expression of a page field or part. The expression keeps its quotes and
any further semicolons. -/
def splitSource (arguments : List Char) : String × String :=
  match Text.splitFirst? ';' arguments with
  | some (name, expression) => (trimmed name, trimmed expression)
  | none => (trimmed arguments, "")

/-- A data type, unless it is blank. -/
def dataType? (argument : List Char) : Option String :=
  if (Text.trim argument).isEmpty then none else some (trimmed argument)

/-- The number, the name and the data type of a table field. The data type keeps its quotes and any
further semicolons. -/
def splitField (arguments : List Char) : FieldArguments :=
  match Text.splitFirst? ';' arguments with
  | none => ⟨trimmed arguments, "", none⟩
  | some (id, rest) =>
    match Text.splitFirst? ';' rest with
    | none => ⟨trimmed id, unquoted rest, none⟩
    | some (name, dataType) => ⟨trimmed id, unquoted name, dataType? dataType⟩

/-- The name of a key and the names of its fields. Empty names are left out. -/
def splitKey (arguments : List Char) : String × List String :=
  match Text.splitFirst? ';' arguments with
  | some (name, fields) =>
    (trimmed name, ((Text.splitAll ',' fields).map unquoted).filter (· != ""))
  | none => (trimmed arguments, [])

end Arguments
end ObjectOutline
