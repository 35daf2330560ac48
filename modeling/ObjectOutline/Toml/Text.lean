/-! Strings in TOML: basic strings with escapes and literal strings without, each on one line or
over several. Readers start after the opening quotes and give what the string holds and what follows
it. -/
namespace ObjectOutline.Toml

/-- What was read, and what follows it. -/
abbrev Reading (α : Type) := Option (α × List Char)

/-- A character that may stand in a string or a comment: no control other than a tab. -/
def isPlain (c : Char) : Bool :=
  c == '\t' || (0x20 ≤ c.toNat && c.toNat != 0x7F)

/-- A space or a tab. -/
def isSpace (c : Char) : Bool :=
  c == ' ' || c == '\t'

/-- Puts a character, if there is one, in front of what was read. -/
def consChar (c : Option Char) (rest : Reading (List Char)) : Reading (List Char) :=
  match c, rest with
  | some c, some (cs, after) => some (c :: cs, after)
  | _, _ => none

/-- The character that a letter behind a backslash stands for. -/
def simpleEscape? (c : Char) : Option Char :=
  if c = 'b' then some '\x08'
  else if c = 't' then some '\t'
  else if c = 'n' then some '\n'
  else if c = 'f' then some '\x0c'
  else if c = 'r' then some '\r'
  else if c = '"' then some '"'
  else if c = '\\' then some '\\'
  else none

/-- The value of a hexadecimal digit. -/
def hexValue? (c : Char) : Option Nat :=
  if c.isDigit then some (c.toNat - '0'.toNat)
  else if 'a' ≤ c && c ≤ 'f' then some (c.toNat - 'a'.toNat + 10)
  else if 'A' ≤ c && c ≤ 'F' then some (c.toNat - 'A'.toNat + 10)
  else none

/-- The character with the given code point in hexadecimal digits. -/
def codePoint? (digits : List Char) : Option Char := do
  let code ← digits.foldlM (fun code c => (hexValue? c).map (code * 16 + ·)) 0
  if h : code.isValidChar then some (Char.ofNatAux code h) else none

/-- The rest of a basic string. -/
def basicRest : List Char → Reading (List Char)
  | [] => none
  | '"' :: rest => some ([], rest)
  | '\\' :: 'u' :: a :: b :: c :: d :: rest => consChar (codePoint? [a, b, c, d]) (basicRest rest)
  | '\\' :: 'U' :: a :: b :: c :: d :: e :: f :: g :: h :: rest =>
    consChar (codePoint? [a, b, c, d, e, f, g, h]) (basicRest rest)
  | '\\' :: c :: rest => consChar (simpleEscape? c) (basicRest rest)
  | c :: rest => if isPlain c then consChar (some c) (basicRest rest) else none

/-- The rest of a literal string. -/
def literalRest : List Char → Reading (List Char)
  | [] => none
  | c :: rest =>
    if c = '\'' then some ([], rest)
    else if isPlain c then consChar (some c) (literalRest rest)
    else none

/-- Nothing but spaces stands before the end of the line. -/
def endsLine (cs : List Char) : Bool :=
  match cs.dropWhile isSpace with
  | '\n' :: _ => true
  | '\r' :: '\n' :: _ => true
  | _ => false

/-- The rest of a basic string over several lines. Up to two quotes may stand before the closing
ones. A backslash at the end of a line takes the blanks and line breaks after it out; `skipping`
says that one was just read. Line breaks are read as line feeds. -/
def multilineBasicRest (skipping : Bool) : List Char → Reading (List Char)
  | [] => none
  | '"' :: '"' :: '"' :: '"' :: '"' :: rest => some (['"', '"'], rest)
  | '"' :: '"' :: '"' :: '"' :: rest => some (['"'], rest)
  | '"' :: '"' :: '"' :: rest => some ([], rest)
  | '\r' :: '\n' :: rest =>
    if skipping then multilineBasicRest true rest
    else consChar (some '\n') (multilineBasicRest false rest)
  | '\\' :: 'u' :: a :: b :: c :: d :: rest =>
    consChar (codePoint? [a, b, c, d]) (multilineBasicRest false rest)
  | '\\' :: 'U' :: a :: b :: c :: d :: e :: f :: g :: h :: rest =>
    consChar (codePoint? [a, b, c, d, e, f, g, h]) (multilineBasicRest false rest)
  | '\\' :: c :: rest =>
    if endsLine (c :: rest) then multilineBasicRest true (c :: rest)
    else consChar (simpleEscape? c) (multilineBasicRest false rest)
  | c :: rest =>
    if skipping && (isSpace c || c == '\n') then multilineBasicRest true rest
    else if c = '\n' || isPlain c then consChar (some c) (multilineBasicRest false rest)
    else none

/-- The rest of a literal string over several lines. -/
def multilineLiteralRest : List Char → Reading (List Char)
  | [] => none
  | '\'' :: '\'' :: '\'' :: '\'' :: '\'' :: rest => some (['\'', '\''], rest)
  | '\'' :: '\'' :: '\'' :: '\'' :: rest => some (['\''], rest)
  | '\'' :: '\'' :: '\'' :: rest => some ([], rest)
  | '\r' :: '\n' :: rest => consChar (some '\n') (multilineLiteralRest rest)
  | c :: rest =>
    if c = '\n' || isPlain c then consChar (some c) (multilineLiteralRest rest) else none

/-- Drops a line break right after the opening quotes. -/
def dropFirstBreak : List Char → List Char
  | '\n' :: rest => rest
  | '\r' :: '\n' :: rest => rest
  | cs => cs

/-- A string of any kind, read from its opening quotes. -/
def readString : List Char → Reading (List Char)
  | '"' :: '"' :: '"' :: rest => multilineBasicRest false (dropFirstBreak rest)
  | '\'' :: '\'' :: '\'' :: rest => multilineLiteralRest (dropFirstBreak rest)
  | '"' :: rest => basicRest rest
  | '\'' :: rest => literalRest rest
  | _ => none

end ObjectOutline.Toml
