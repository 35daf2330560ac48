import ObjectOutline.Yaml.Resolve

/-! Scalars. A text is written plain where it can be, in single quotes where plain would not read
back, as a literal block when it holds a line feed, and in double quotes when nothing else can show
all of its characters. Lines are never folded. -/
namespace ObjectOutline.Yaml

/-- A character that ends a line. -/
def isBreak (c : Char) : Bool :=
  c == '\n' || c == '\r' || c == '\u0085' || c == '\u2028' || c == '\u2029'

/-- A character that separates: a space, a tab, a line break or a null. -/
def isSeparator (c : Char) : Bool :=
  c == ' ' || c == '\t' || c == '\x00' || isBreak c

/-- A character that may stand outside double quotes. -/
def isPrintable (c : Char) : Bool :=
  let n := c.toNat
  n == 0xA || (0x20 ≤ n && n ≤ 0x7E) || (0xA0 ≤ n && n ≤ 0xD7FF) ||
    (0xE000 ≤ n && n ≤ 0xFFFD && n != 0xFEFF) || (0x10000 ≤ n && n ≤ 0x10FFFF)

/-- Some character with the first property stands right before one with the second. -/
def hasPair (first second : Char → Bool) : List Char → Bool
  | [] => false
  | [_] => false
  | a :: b :: rest => (first a && second b) || hasPair first second (b :: rest)

/-- A separator or the end comes next. -/
def startsSeparated : List Char → Bool
  | [] => true
  | c :: _ => isSeparator c

/-- A character inside a plain text would be taken for an indicator: a colon before a separator, or
a number sign after one. -/
def hasInnerIndicator (afterSeparator : Bool) : List Char → Bool
  | [] => false
  | c :: rest =>
    (c == ':' && startsSeparated rest) || (c == '#' && afterSeparator) ||
      hasInnerIndicator (isSeparator c) rest

/-- The first characters of a plain text would be taken for an indicator or a document mark. -/
def startsWithIndicator : List Char → Bool
  | '-' :: '-' :: '-' :: _ => true
  | '.' :: '.' :: '.' :: _ => true
  | [] => false
  | c :: rest =>
    "#,[]\x7b\x7d&*!|>'\"%@\x60".contains c ||
      ((c == '-' || c == '?' || c == ':') && startsSeparated rest)

/-- A plain text would be taken for something else than a text. -/
def hasIndicator (cs : List Char) : Bool :=
  startsWithIndicator cs || hasInnerIndicator (cs.head?.any isSeparator) cs.tail

/-- The ways to write a text. -/
inductive Style where
  | plain
  | singleQuoted
  | doubleQuoted
  | literal
  deriving DecidableEq, Repr

/-- Only double quotes can show the text: a character is not printable, or a space stands before a
line break. -/
def needsEscapes (cs : List Char) : Bool :=
  cs.any (!isPrintable ·) || hasPair (· == ' ') isBreak cs

/-- A space or a line break at either end, or a line break inside. -/
def hasLooseEdge (cs : List Char) : Bool :=
  cs.head?.any (· == ' ') || cs.getLast?.any (· == ' ') || cs.any isBreak

/-- The way in which a text is written. -/
def styleOf (text : String) : Style :=
  let cs := text.toList
  if cs.contains '\n' then
    if needsEscapes cs || cs.getLast? == some ' ' then .doubleQuoted else .literal
  else if !needsQuotes text && !hasIndicator cs && !hasLooseEdge cs && !needsEscapes cs then .plain
  else if needsEscapes cs || hasPair isBreak (· == ' ') cs then .doubleQuoted
  else .singleQuoted

/-- Hexadecimal digits in upper case, with zeros in front. -/
def hexDigits (width : Nat) (n : Nat) : List Char :=
  let digits := (Nat.toDigits 16 n).map Char.toUpper
  List.replicate (width - digits.length) '0' ++ digits

/-- How one character is written in double quotes. -/
def escape (c : Char) : List Char :=
  let n := c.toNat
  if c = '"' then ['\\', '"']
  else if c = '\\' then ['\\', '\\']
  else if n = 0x00 then ['\\', '0']
  else if n = 0x07 then ['\\', 'a']
  else if n = 0x08 then ['\\', 'b']
  else if n = 0x09 then ['\\', 't']
  else if n = 0x0A then ['\\', 'n']
  else if n = 0x0B then ['\\', 'v']
  else if n = 0x0C then ['\\', 'f']
  else if n = 0x0D then ['\\', 'r']
  else if n = 0x1B then ['\\', 'e']
  else if n = 0x85 then ['\\', 'N']
  else if n = 0x2028 then ['\\', 'L']
  else if n = 0x2029 then ['\\', 'P']
  else if isPrintable c then [c]
  else if n ≤ 0xFF then '\\' :: 'x' :: hexDigits 2 n
  else if n ≤ 0xFFFF then '\\' :: 'u' :: hexDigits 4 n
  else '\\' :: 'U' :: hexDigits 8 n

/-- Writes the indentation before every character that follows a line break and is none itself. -/
def indentLines (indent : Nat) (afterBreak : Bool) : List Char → List Char
  | [] => []
  | c :: rest =>
    if isBreak c then c :: indentLines indent true rest
    else if afterBreak then
      List.replicate indent ' ' ++ c :: indentLines indent false rest
    else c :: indentLines indent false rest

/-- A text in single quotes. Line breaks are kept, and what follows one is indented. -/
def singleQuoted (indent : Nat) (cs : List Char) : List Char :=
  let body := cs.flatMap fun c => if c = '\'' then ['\'', '\''] else [c]
  let closing := if cs.getLast?.any isBreak then List.replicate indent ' ' else []
  '\'' :: indentLines indent false body ++ closing ++ ['\'']

/-- The header of a literal block. It gives the indentation when the text starts with a space or a
break, and says what becomes of the line breaks at the end. -/
def literalHeader (cs : List Char) : List Char :=
  let indentation := if cs.head?.any (fun c => c == ' ' || isBreak c) then ['2'] else []
  let chomping :=
    match cs.reverse with
    | [] => ['-']
    | [c] => if isBreak c then ['+'] else ['-']
    | c :: before :: _ => if !isBreak c then ['-'] else if isBreak before then ['+'] else []
  '|' :: indentation ++ chomping

/-- A text as a value, with the line break after it. `indent` is the column of the lines of a
literal block. -/
def writeText (indent : Nat) (text : String) : List Char :=
  let cs := text.toList
  match styleOf text with
  | .plain => cs ++ ['\n']
  | .singleQuoted => singleQuoted indent cs ++ ['\n']
  | .doubleQuoted => '"' :: cs.flatMap escape ++ ['"', '\n']
  | .literal =>
    literalHeader cs ++ '\n' :: indentLines indent true cs ++
      (if cs.getLast?.any isBreak then [] else ['\n'])

end ObjectOutline.Yaml
