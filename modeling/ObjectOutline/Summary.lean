import ObjectOutline.Header
import ObjectOutline.Symbol.Arguments
import ObjectOutline.Text.Word

/-! Summaries: what the first object of a text is and which fields it names, found without matching
braces. Comments and literals are not told apart from code here. -/
namespace ObjectOutline

/-- The summary of an object. The subtype is a page's type; fields are listed for tables and
pages. -/
structure Summary where
  objectType : String
  id : UInt32
  name : String
  subType : String
  fields : List String
  deriving DecidableEq, Repr

namespace Summary

/-- Reads `keyword id name` at the start of a text, blank lines before it apart: the keyword, the
digits of the id and the name, which runs to the end of its line. -/
def declarationHere? (text : List Char) : Option (List Char × List Char × List Char) :=
  match Header.splitKeywordId? (Text.trimStart text) with
  | none => none
  | some (keyword, digits, gap) =>
    let rest := Text.trimStart gap
    if rest.length == gap.length then none
    else some (keyword, digits, rest.takeWhile (· != '\n'))

/-- The first declaration that starts a line. -/
def declarationFrom? : List Char → Option (List Char × List Char × List Char)
  | [] => none
  | c :: rest => if c = '\n' then (declarationHere? rest).or (declarationFrom? rest)
    else declarationFrom? rest

/-- The first declaration of a text. -/
def declaration? (text : List Char) : Option (List Char × List Char × List Char) :=
  (declarationHere? text).or (declarationFrom? text)

/-- The value of the first `PageType = value;` in a text, trimmed. -/
def pageType? : List Char → Option (List Char)
  | [] => none
  | c :: rest =>
    let here : Option (List Char) :=
      if "PageType".toList.isPrefixOf (c :: rest) then
        match Text.trimStart ((c :: rest).drop 8) with
        | '=' :: value => (Text.splitFirst? ';' value).map fun (value, _) => Text.trim value
        | _ => none
      else none
    here.or (pageType? rest)

/-- What stands between the parentheses of the first `field(…)` of a line. The word starts at a word
boundary, in any letter case; the last closing parenthesis of the line ends the arguments. -/
def fieldArguments? (afterWord : Bool) : List Char → Option (List Char)
  | [] => none
  | c :: rest =>
    let here : Option (List Char) :=
      if afterWord then none
      else match Text.dropWord? ['f', 'i', 'e', 'l', 'd'] (c :: rest) with
        | some ('(' :: inner) => Header.beforeLastParenthesis? inner
        | _ => none
    here.or (fieldArguments? (Text.isWord c) rest)

/-- The field name on a line: the second of the arguments. -/
def fieldName? (line : List Char) : Option String :=
  match fieldArguments? false line with
  | none => none
  | some arguments => ((Text.splitAll ';' arguments)[1]?).map Arguments.unquoted

/-- The summary of a text. There is none when no line declares an object, or when the first
declaration's id does not fit 32 bits. -/
def ofText? (text : List Char) : Option Summary :=
  match declaration? text with
  | none => none
  | some (keyword, digits, name) =>
    match Text.word32? digits with
    | none => none
    | some id =>
      let objectType := String.ofList (Text.lowerAscii keyword)
      let name := Arguments.unquoted name
      if objectType = "table" ∨ objectType = "page" then
        some ⟨objectType, id, name, String.ofList ((pageType? text).getD []),
          (Text.lines text).filterMap fieldName?⟩
      else some ⟨objectType, id, name, "", []⟩

end Summary
end ObjectOutline
