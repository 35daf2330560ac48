import ObjectOutline.Toml.Number
import ObjectOutline.Toml.Text

/-! Reading TOML documents. A document is read line by line; a line holds a header, a key with its
value, or nothing, and a comment may end it. A value may run over several lines. Neither keys nor
values nest without bound. -/
namespace ObjectOutline.Toml

/-- A key has fewer parts than this, and fewer lists and tables than this lie inside each other. -/
def nestingLimit : Nat := 80

/-- Drops spaces and tabs. -/
def skipSpaces (cs : List Char) : List Char :=
  cs.dropWhile isSpace

/-- A character of a bare key. -/
def isBareKeyChar (c : Char) : Bool :=
  c.isAlphanum || c == '_' || c == '-'

/-- One part of a key: a bare word, or a quoted string on one line. -/
def readKeyPart (cs : List Char) : Reading String :=
  match cs with
  | '"' :: rest => (basicRest rest).map fun (key, rest) => (String.ofList key, rest)
  | '\'' :: rest => (literalRest rest).map fun (key, rest) => (String.ofList key, rest)
  | _ =>
    match cs.takeWhile isBareKeyChar with
    | [] => none
    | key => some (String.ofList key, cs.dropWhile isBareKeyChar)

/-- A key of at most `parts` parts with dots between them. -/
def readKeyParts : Nat → List Char → Reading (List String)
  | 0, _ => none
  | parts + 1, cs =>
    match readKeyPart (skipSpaces cs) with
    | none => none
    | some (part, rest) =>
      match skipSpaces rest with
      | '.' :: rest => (readKeyParts parts rest).map fun (parts, rest) => (part :: parts, rest)
      | rest => some ([part], rest)

/-- A key of one or more parts with dots between them. -/
def readKey (cs : List Char) : Reading (List String) :=
  readKeyParts (nestingLimit - 1) cs

/-- Drops a comment up to the end of its line; nothing when it holds a control character. -/
def skipComment : List Char → Option (List Char)
  | '#' :: rest =>
    let after := rest.dropWhile isPlain
    match after with
    | [] => some after
    | '\n' :: _ => some after
    | '\r' :: '\n' :: _ => some after
    | _ => none
  | cs => some cs

/-- Drops one line break. -/
def dropBreak? : List Char → Option (List Char)
  | '\n' :: rest => some rest
  | '\r' :: '\n' :: rest => some rest
  | _ => none

/-- Drops spaces, comments and line breaks. `fuel` bounds the number of lines. -/
def skipLines : Nat → List Char → Option (List Char)
  | 0, _ => none
  | fuel + 1, cs =>
    match skipComment (skipSpaces cs) with
    | none => none
    | some rest =>
      match dropBreak? rest with
      | some rest => skipLines fuel rest
      | none => some rest

/-- Changes a table with what stands in front of the last part of a key and the last part itself. -/
def splitKey (change : List String → String → Entries → Option Entries) (key : List String)
    (entries : Entries) : Option Entries :=
  match key.getLast? with
  | some last => change key.dropLast last entries
  | none => none

/-- Adds a value below a key of one or more parts. -/
def addKey (key : List String) (value : Value) (entries : Entries) : Option Entries :=
  splitKey (fun path last => addDotted last value path) key entries

/-- A value without parts. -/
def readPlainValue (cs : List Char) : Reading Value :=
  match cs with
  | '"' :: _ | '\'' :: _ =>
    (readString cs).map fun (text, rest) => (.string (String.ofList text), rest)
  | _ =>
    match readMoment cs with
    | some (moment, rest) => some (.moment moment, rest)
    | none => (wordValue? (cs.takeWhile isWordChar)).map fun value => (value, cs.dropWhile isWordChar)

mutual

/-- A value with at most `room` lists and tables inside each other. `fuel` bounds the number of
their parts. -/
def readValue : Nat → Nat → List Char → Reading Value
  | 0, _, _ => none
  | fuel + 1, room, cs =>
    match cs, room with
    | '[' :: _, 0 => none
    | '{' :: _, 0 => none
    | '[' :: rest, room + 1 =>
      (readItems fuel room rest).map fun (items, rest) => (.array items, rest)
    | '{' :: rest, room + 1 =>
      match skipSpaces rest with
      | '}' :: rest => some (.table [], rest)
      | rest => (readMembers fuel room [] rest).map fun (entries, rest) =>
          (.table (entriesToValues entries), rest)
    | cs, _ => readPlainValue cs

/-- The items of a list, read behind its bracket or behind a comma. A comma may stand at the end. -/
def readItems : Nat → Nat → List Char → Reading (List Value)
  | 0, _, _ => none
  | fuel + 1, room, cs =>
    match skipLines (cs.length + 1) cs with
    | none => none
    | some (']' :: rest) => some ([], rest)
    | some rest =>
      match readValue fuel room rest with
      | none => none
      | some (item, rest) =>
        match skipLines (rest.length + 1) rest with
        | some (',' :: rest) =>
          (readItems fuel room rest).map fun (items, rest) => (item :: items, rest)
        | some (']' :: rest) => some ([item], rest)
        | _ => none

/-- The entries of a table in braces, read behind its brace or behind a comma. They stand on one
line, and no comma stands at the end. -/
def readMembers : Nat → Nat → Entries → List Char → Reading Entries
  | 0, _, _, _ => none
  | fuel + 1, room, entries, cs =>
    match readKey cs with
    | some (key, '=' :: rest) =>
      match readValue fuel room (skipSpaces rest) with
      | none => none
      | some (value, rest) =>
        match addKey key value entries with
        | none => none
        | some entries =>
          match skipSpaces rest with
          | ',' :: rest => readMembers fuel room entries rest
          | '}' :: rest => some (entries, rest)
          | _ => none
    | _ => none

end

/-- The state of reading a document: what was read, and the path of the table that keys go into. -/
structure Progress where
  document : Entries
  path : List String

/-- Reads what stands at the start of a line, up to its comment. -/
def readLine (progress : Progress) (cs : List Char) : Reading Progress :=
  match skipSpaces cs with
  | '[' :: '[' :: rest =>
    match readKey rest with
    | some (key, ']' :: ']' :: rest) =>
      (splitKey openElement key progress.document).map fun document => (⟨document, key⟩, rest)
    | _ => none
  | '[' :: rest =>
    match readKey rest with
    | some (key, ']' :: rest) =>
      (splitKey openTable key progress.document).map fun document => (⟨document, key⟩, rest)
    | _ => none
  | [] => some (progress, [])
  | '\n' :: rest => some (progress, '\n' :: rest)
  | '\r' :: rest => some (progress, '\r' :: rest)
  | '#' :: rest => some (progress, '#' :: rest)
  | rest =>
    match readKey rest with
    | some (key, '=' :: rest) =>
      match readValue (cs.length + 1) (nestingLimit - 1) (skipSpaces rest) with
      | none => none
      | some (value, rest) =>
        (changeTable (addKey key value) progress.path progress.document).map fun document =>
          (⟨document, progress.path⟩, rest)
    | _ => none

/-- Reads the lines of a document. `fuel` bounds their number. -/
def readLines : Nat → Progress → List Char → Option Entries
  | 0, _, _ => none
  | fuel + 1, progress, cs =>
    match readLine progress cs with
    | none => none
    | some (progress, rest) =>
      match skipComment (skipSpaces rest) with
      | none => none
      | some [] => some progress.document
      | some rest =>
        match dropBreak? rest with
        | some rest => readLines fuel progress rest
        | none => none

/-- The top-level table of a document; nothing when it is not well-formed. -/
def parse? (text : List Char) : Option (List (String × Value)) :=
  (readLines (text.length + 1) ⟨[], []⟩ text).map entriesToValues

end ObjectOutline.Toml
