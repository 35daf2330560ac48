import ObjectOutline.Json
import ObjectOutline.Yaml.Scalar

/-! Values in block style. Members stand on lines of their own, two columns deeper at each level;
the items of a list stand below their key at the key's own column. -/
namespace ObjectOutline.Yaml

/-- A value without parts, with the line break after it. -/
def writeScalar (indent : Nat) : Json → List Char
  | .string text => writeText indent text
  | value => value.scalarText.toList ++ ['\n']

/-- Spaces up to a column. -/
def spaces (column : Nat) : List Char :=
  List.replicate column ' '

mutual

/-- A value behind a key that stands at `column`. -/
def writeValue (column : Nat) : Json → List Char
  | .array (item :: items) => '\n' :: writeItems column (item :: items)
  | .object (member :: members) =>
    '\n' :: spaces (column + 2) ++ writeMembers (column + 2) (member :: members)
  | .array [] => " []\n".toList
  | .object [] => " \x7b\x7d\n".toList
  | .null => ' ' :: writeScalar (column + 2) .null
  | .bool value => ' ' :: writeScalar (column + 2) (.bool value)
  | .integer value => ' ' :: writeScalar (column + 2) (.integer value)
  | .float value => ' ' :: writeScalar (column + 2) (.float value)
  | .string value => ' ' :: writeScalar (column + 2) (.string value)

/-- An item behind a dash that stands at `column`. -/
def writeItem (column : Nat) : Json → List Char
  | .array (item :: items) => writeItems (column + 2) (item :: items)
  | .object (member :: members) => writeMembers (column + 2) (member :: members)
  | .array [] => "[]\n".toList
  | .object [] => "\x7b\x7d\n".toList
  | .null => writeScalar (column + 2) .null
  | .bool value => writeScalar (column + 2) (.bool value)
  | .integer value => writeScalar (column + 2) (.integer value)
  | .float value => writeScalar (column + 2) (.float value)
  | .string value => writeScalar (column + 2) (.string value)

/-- The items of a list, each behind a dash at `column`. -/
def writeItems (column : Nat) : List Json → List Char
  | [] => []
  | item :: items => spaces column ++ '-' :: ' ' :: writeItem column item ++ writeItems column items

/-- The members of an object. The first key is written where the text stands, the others at
`column`. -/
def writeMembers (column : Nat) : List (String × Json) → List Char
  | [] => []
  | (key, value) :: members =>
    let rest := writeMembers column members
    key.toList ++ ':' :: writeValue column value ++
      (if members.isEmpty then [] else spaces column ++ rest)

end

/-- A value as a document. -/
def render : Json → String
  | .object (member :: members) => String.ofList (writeMembers 0 (member :: members))
  | value => String.ofList (writeItem 0 value)

end ObjectOutline.Yaml
