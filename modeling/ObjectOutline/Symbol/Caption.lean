import ObjectOutline.Property

/-! Captions. A caption is written as a literal, `'…'` with every apostrophe inside it doubled. The
property `Caption` decides, then the first language of `CaptionML`, and without either of them the
name serves. -/
namespace ObjectOutline.Caption

/-- What a literal holds, read after its opening apostrophe; nothing when it does not end. A doubled
apostrophe stands for one. -/
def literalBody? : List Char → Option (List Char)
  | [] => none
  | '\'' :: '\'' :: rest => (literalBody? rest).map ('\'' :: ·)
  | '\'' :: _ => some []
  | c :: rest => (literalBody? rest).map (c :: ·)

/-- What the literal at the start of a value holds, trimmed. What follows the literal is passed
over. -/
def firstLiteral? (value : List Char) : Option (List Char) :=
  match Text.trimStart value with
  | '\'' :: rest => (literalBody? rest).map Text.trim
  | _ => none

/-- The caption that a `Caption` value gives. A value that is no literal loses its apostrophes. -/
def ofValue (value : List Char) : List Char :=
  (firstLiteral? value).getD (Text.stripApostrophes value)

/-- A language tag with its equals sign stands here, blanks before it apart. -/
def startsLanguage (text : List Char) : Bool :=
  match Text.trimStart text with
  | a :: b :: c :: '=' :: _ => a.isAlpha && b.isAlpha && c.isAlpha
  | _ => false

/-- The text before the first comma that a language tag follows. -/
def beforeNextLanguage : List Char → List Char
  | [] => []
  | c :: rest => if c = ',' && startsLanguage rest then [] else c :: beforeNextLanguage rest

/-- The caption of the first language in a `CaptionML` value such as `ENU='No.',DEU='Nr.'`. -/
def ofMultiLanguage (value : List Char) : List Char :=
  let bare := Text.stripApostrophes value
  let text :=
    match Text.splitFirst? '=' bare with
    | some (_, text) => text
    | none => bare
  Text.trim (beforeNextLanguage text)

/-- The caption to show for something with these properties and this name. -/
def resolve (properties : List Property) (name : String) : String :=
  match Property.lookup? properties "Caption" with
  | some property => String.ofList (ofValue property.value.toList)
  | none =>
    match Property.lookup? properties "CaptionML" with
    | some property => String.ofList (ofMultiLanguage property.value.toList)
    | none => String.ofList (Text.stripQuotes name.toList)

end ObjectOutline.Caption
