import ObjectOutline.Text.Identifier
import ObjectOutline.Text.Number

/-! Headers: the line in front of an opening brace says what the region is. Two forms are tried in
order, `keyword id "name"` with an optional `extends` clause, and `keyword(arguments)`. Any other
line becomes the region's keyword as it stands. -/
namespace ObjectOutline

/-- The form that a header line turned out to have. -/
inductive HeaderShape where
  /-- `keyword id "name"` -/
  | numbered
  /-- `keyword(arguments)` -/
  | parameterized
  /-- One bare keyword. -/
  | bare
  /-- The numbered form with an id that does not fit 32 bits. -/
  | invalidId
  /-- None of the forms. -/
  | unrecognized
  deriving DecidableEq, Repr, Inhabited

/-- What a header line says about its region. The target is what an `extends` clause names. -/
structure Header where
  keyword : String
  id : Option UInt32
  name : Option String
  objectType : String
  target : Option String
  shape : HeaderShape
  deriving DecidableEq, Repr, Inhabited

namespace Header

/-- Splits letters, blanks and digits from the start of a text: the letters, the digits and what
follows the digits. -/
def splitKeywordId? (text : List Char) : Option (List Char × List Char × List Char) :=
  let keyword := text.takeWhile Text.isLetter
  let gap := text.dropWhile Text.isLetter
  let number := Text.trimStart gap
  let digits := number.takeWhile Char.isDigit
  if keyword.isEmpty || number.length == gap.length || digits.isEmpty then none
  else some (keyword, digits, number.dropWhile Char.isDigit)

/-- Splits the numbered form: the keyword, the digits of the id, and the rest of the line. -/
def splitNumbered? (line : List Char) : Option (List Char × List Char × List Char) :=
  match splitKeywordId? line with
  | none => none
  | some (keyword, digits, gap) =>
    let rest := Text.trimStart gap
    if gap.isEmpty then some (keyword, digits, [])
    else if rest.length == gap.length || rest.contains '\n' then none
    else some (keyword, digits, rest)

/-- Splits one name from the start of a text: a quoted run with its quotes, or a bare word. -/
def splitName? : List Char → Option (List Char × List Char)
  | [] => none
  | c :: rest =>
    if c = '"' then
      match rest.dropWhile (· != '"') with
      | [] => none
      | _ :: after => some ('"' :: rest.takeWhile (· != '"') ++ ['"'], after)
    else
      let isBare := fun d => !Text.isBlank d && d != '"'
      if isBare c then some (c :: rest.takeWhile isBare, rest.dropWhile isBare) else none

/-- Splits `name extends target`. The clause counts only after a whole name, so the word inside a
quoted name is part of the name. -/
def splitExtends? (text : List Char) : Option (List Char × List Char) :=
  match splitName? text with
  | none => none
  | some (name, gap) =>
    let clause := Text.trimStart gap
    if clause.length == gap.length then none
    else match Text.dropWord? ['e', 'x', 't', 'e', 'n', 'd', 's'] clause with
      | none => none
      | some gap =>
        let target := Text.trimStart gap
        if target.length == gap.length || target.isEmpty then none
        else some (name, target)

/-- What stands before the last `)` of the first line of a text. -/
def beforeLastParenthesis? (text : List Char) : Option (List Char) :=
  match (text.takeWhile (· != '\n')).reverse.dropWhile (· != ')') with
  | [] => none
  | _ :: before => some before.reverse

/-- Splits the parameterized form: the keyword and what its parentheses hold. The last closing
parenthesis ends the arguments, and what follows it is passed over. -/
def splitParameterized? (line : List Char) : Option (List Char × List Char) :=
  match Text.splitIdentifier? line with
  | none => none
  | some (keyword, rest) =>
    match Text.trimStart rest with
    | '(' :: inner =>
      match beforeLastParenthesis? inner with
      | some arguments => some (keyword, arguments)
      | none => none
    | _ => none

/-- A header of which only the line itself is known. -/
def ofWholeLine (line : List Char) (shape : HeaderShape) : Header :=
  ⟨String.ofList line, none, none, "", none, shape⟩

/-- The header of a numbered line, or of the whole line when the id does not fit. -/
def ofNumbered (line keyword digits rest : List Char) : Header :=
  match Text.word32? digits with
  | none => ofWholeLine line .invalidId
  | some id =>
    let keyword := String.ofList (Text.lowerAscii keyword)
    let (name, target) :=
      match splitExtends? rest with
      | some (name, target) => (name, some (String.ofList (Text.stripQuotes target)))
      | none => (rest, none)
    ⟨keyword, some id, some (String.ofList (Text.stripQuotes name)), keyword, target, .numbered⟩

/-- Classifies a header line. -/
def classify (text : List Char) : Header :=
  let line := Text.trim text
  match splitNumbered? line with
  | some (keyword, digits, rest) => ofNumbered line keyword digits rest
  | none =>
    match splitParameterized? line with
    | some (keyword, arguments) =>
      ⟨String.ofList (Text.lowerAscii keyword), some 0,
        some (String.ofList (Text.stripQuotes arguments)), "", none, .parameterized⟩
    | none => ofWholeLine line (if Text.isIdentifier line then .bare else .unrecognized)

end Header
end ObjectOutline
