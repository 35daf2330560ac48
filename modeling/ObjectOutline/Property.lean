import ObjectOutline.Text.Identifier
import ObjectOutline.Text.Lines

/-! Properties: lines `Name = Value;`. The name is one bare identifier, which keeps lines of code
such as `Rec."No." := 1;` and `if x = y then` out. -/
namespace ObjectOutline

/-- A declared name and its value. -/
structure Property where
  name : String
  value : String
  deriving DecidableEq, Repr, Inhabited

namespace Property

/-- Drops one semicolon at the end, if there is one, and trims what is left. -/
def dropSemicolon (value : List Char) : List Char :=
  Text.trimEnd (if value.getLast? = some ';' then value.dropLast else value)

/-- Reads one line. The first equals sign divides it, and a value does not run over a line feed. -/
def ofLine? (line : List Char) : Option Property :=
  match Text.splitIdentifier? (Text.trim line) with
  | none => none
  | some (name, rest) =>
    match Text.trimStart rest with
    | '=' :: afterEquals =>
      let value := Text.trim afterEquals
      if value.contains '\n' then none
      else some ⟨String.ofList name, String.ofList (dropSemicolon value)⟩
    | _ => none

/-- The properties among the lines of a text, in order. Other lines are passed over. -/
def ofLines (text : List Char) : List Property :=
  (Text.lines text).filterMap ofLine?

/-- The first property of that name. -/
def lookup? (properties : List Property) (name : String) : Option Property :=
  properties.find? fun property => property.name == name

end Property
end ObjectOutline
