import ObjectOutline.Decimal.Shortest

/-! JSON values. Numbers written as integers stay integers, so that object ids are exact; all other
numbers are floating point. The members of an object keep their order. -/
namespace ObjectOutline

/-- A JSON value. -/
inductive Json where
  | null
  | bool (value : Bool)
  | integer (value : Int)
  | float (value : Float)
  | string (value : String)
  | array (items : List Json)
  | object (members : List (String × Json))
  deriving BEq, Repr, Inhabited

namespace Json

/-- A string that may be absent, as a value that is null when it is. -/
def ofOption (value : Option String) : Json :=
  match value with
  | some text => .string text
  | none => .null

/-- A list of strings. -/
def strings (values : List String) : Json :=
  .array (values.map .string)

/-- One hexadecimal digit, in lower case. -/
def hexDigit (n : Nat) : Char :=
  if n < 10 then Char.ofNat (48 + n) else Char.ofNat (87 + n)

/-- How one character is written inside a string. Only quotes, backslashes and controls are
escaped. -/
def escapeChar (c : Char) : List Char :=
  if c = '"' then ['\\', '"']
  else if c = '\\' then ['\\', '\\']
  else if c = '\x08' then ['\\', 'b']
  else if c = '\x0c' then ['\\', 'f']
  else if c = '\n' then ['\\', 'n']
  else if c = '\r' then ['\\', 'r']
  else if c = '\t' then ['\\', 't']
  else if c.toNat < 0x20 then
    ['\\', 'u', '0', '0', hexDigit (c.toNat / 16), hexDigit (c.toNat % 16)]
  else [c]

/-- A string with its quotes. -/
def quote (text : String) : String :=
  String.ofList ('"' :: text.toList.flatMap escapeChar ++ ['"'])

/-- The text of a floating point number. JSON has none for infinities. -/
def floatText (value : Float) : String :=
  if value.isFinite then Decimal.render .scientific value else "null"

/-- The text of a value that holds no other value. -/
def scalarText : Json → String
  | .null => "null"
  | .bool value => toString value
  | .integer value => toString value
  | .float value => floatText value
  | .string value => quote value
  | .array _ => "[]"
  | .object _ => "\x7b\x7d"

mutual

/-- A value on lines of its own, two spaces deeper at each level. `indent` is the line break with
the indentation of the line that the value starts on. Empty lists and objects stay on one line. -/
def prettyAt (indent : String) : Json → String
  | .array (item :: items) =>
    let inner := indent ++ "  "
    "[" ++ inner ++ prettyAt inner item ++ prettyItems inner items ++ indent ++ "]"
  | .object ((key, value) :: members) =>
    let inner := indent ++ "  "
    "\x7b" ++ inner ++ quote key ++ ": " ++ prettyAt inner value ++ prettyMembers inner members ++
      indent ++ "\x7d"
  | .null => scalarText .null
  | .bool value => scalarText (.bool value)
  | .integer value => scalarText (.integer value)
  | .float value => scalarText (.float value)
  | .string value => scalarText (.string value)
  | .array [] => scalarText (.array [])
  | .object [] => scalarText (.object [])

/-- The further items of a list. -/
def prettyItems (indent : String) : List Json → String
  | [] => ""
  | item :: items => "," ++ indent ++ prettyAt indent item ++ prettyItems indent items

/-- The further members of an object. -/
def prettyMembers (indent : String) : List (String × Json) → String
  | [] => ""
  | (key, value) :: members =>
    "," ++ indent ++ quote key ++ ": " ++ prettyAt indent value ++ prettyMembers indent members

end

/-- A value laid out over several lines, without a line break at the end. -/
def pretty (value : Json) : String :=
  prettyAt "\n" value

end Json
end ObjectOutline
