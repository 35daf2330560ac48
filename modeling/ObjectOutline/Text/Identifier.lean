import ObjectOutline.Text.Blank

/-! Words of the source language: identifiers are ASCII, keywords are compared by simple case
folding. Folding brings two characters beyond ASCII into the Latin alphabet: the long s (U+017F) and
the Kelvin sign (U+212A). Lower-casing here is ASCII lower-casing and leaves both alone. -/
namespace ObjectOutline.Text

/-- A character that can start an identifier. -/
def isIdentifierStart (c : Char) : Bool :=
  c.isAlpha || c == '_'

/-- A character that can continue an identifier. -/
def isIdentifierRest (c : Char) : Bool :=
  c.isAlphanum || c == '_'

/-- The identifier at the start of a text and what follows it. -/
def splitIdentifier? : List Char → Option (List Char × List Char)
  | [] => none
  | c :: rest =>
    if isIdentifierStart c then
      some (c :: rest.takeWhile isIdentifierRest, rest.dropWhile isIdentifierRest)
    else none

/-- The whole text is one identifier. -/
def isIdentifier : List Char → Bool
  | [] => false
  | c :: rest => isIdentifierStart c && rest.all isIdentifierRest

/-- The ASCII letter that `c` folds to, if it folds to one. -/
def foldLetter? (c : Char) : Option Char :=
  if c.isAlpha then some c.toLower
  else if c = 'ſ' then some 's'
  else if c = '\u212A' then some 'k'
  else none

/-- A character that folds to an ASCII letter. -/
def isLetter (c : Char) : Bool :=
  (foldLetter? c).isSome

/-- Drops the lower-case `word` from the start of a text, in whatever letter case it is written. -/
def dropWord? : List Char → List Char → Option (List Char)
  | [], cs => some cs
  | _ :: _, [] => none
  | w :: word, c :: cs => if foldLetter? c = some w then dropWord? word cs else none

/-- ASCII lower-casing. -/
def lowerAscii (cs : List Char) : List Char :=
  cs.map Char.toLower

/-- The two texts agree up to the case of their ASCII letters. -/
def sameWord (left right : String) : Bool :=
  lowerAscii left.toList == lowerAscii right.toList

theorem toList_toLower (word : String) : word.toLower.toList = lowerAscii word.toList :=
  String.toList_map

theorem sameWord_eq (left right : String) :
    sameWord left right = (left.toLower == right.toLower) := by
  rw [Bool.eq_iff_iff, sameWord, beq_iff_eq, beq_iff_eq, ← String.toList_inj, toList_toLower,
    toList_toLower]

end ObjectOutline.Text
