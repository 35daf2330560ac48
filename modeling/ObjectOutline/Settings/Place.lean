import ObjectOutline.Settings.Value

/-! Places: where in the settings a value goes. A place is a name, then names behind dots and
indexes in brackets. Names are compared in lower case. -/
namespace ObjectOutline.Settings

/-- A character of a name. -/
def isNameChar (c : Char) : Bool :=
  c.isAlphanum || c == '_' || c == ' ' || c == '-'

/-- An index in brackets, with spaces around it or a minus in front of it. -/
def readIndex? (cs : List Char) : Option (Int × List Char) :=
  let isSpace := fun (c : Char) => c == ' ' || c == '\t'
  let (isNegative, body) :=
    match cs.dropWhile isSpace with
    | '-' :: rest => (true, rest)
    | rest => (false, rest)
  let digits := body.takeWhile Char.isDigit
  let size : Int := digits.foldl (fun total d => total * 10 + (d.toNat - '0'.toNat)) 0
  let value := if isNegative then -size else size
  if digits.isEmpty || value < -(Nat.pow 2 63 : Int) || Nat.pow 2 63 ≤ value then none
  else match (body.dropWhile Char.isDigit).dropWhile isSpace with
    | ']' :: rest => some (value, rest)
    | _ => none

/-- The further parts of a place. `fuel` bounds their number. -/
def readSteps? : Nat → List Char → Option (List Step)
  | _, [] => some []
  | 0, _ => none
  | fuel + 1, '.' :: rest =>
    match rest.takeWhile isNameChar with
    | [] => none
    | name => (readSteps? fuel (rest.dropWhile isNameChar)).map (.key (String.ofList name) :: ·)
  | fuel + 1, '[' :: rest =>
    match readIndex? rest with
    | some (index, rest) => (readSteps? fuel rest).map (.index index :: ·)
    | none => none
  | _, _ => none

/-- Reads a place. -/
def readPlace? (text : String) : Option (List Step) :=
  let cs := text.toList
  match cs.takeWhile isNameChar with
  | [] => none
  | name =>
    (readSteps? cs.length (cs.dropWhile isNameChar)).map (.key (String.ofList name) :: ·)

/-- The entries of a table; none when the value is no table. -/
def Value.entries : Value → List (String × Value)
  | .table _ entries => entries
  | _ => []

/-- The file of a value that is a table. A value that has to become one has none. -/
def Value.tableFile? : Value → Option String
  | .table file _ => file
  | _ => none

/-- Changes the entry of a key, or adds one made from `fallback`. -/
def changeEntry (key : String) (fallback : Value) (change : Value → Value) :
    List (String × Value) → List (String × Value)
  | [] => [(key, change fallback)]
  | (name, value) :: rest =>
    if name = key then (name, change value) :: rest
    else (name, value) :: changeEntry key fallback change rest

/-- Changes what a table holds under a key. What is no table becomes one. -/
def Value.changeKey (value : Value) (key : String) (fallback : Value) (change : Value → Value) :
    Value :=
  .table value.tableFile?
    (changeEntry (String.ofList (Text.lower key.toList)) fallback change value.entries)

/-- Changes the item at an index. -/
def changeItem (change : Value → Value) : Nat → List Value → List Value
  | _, [] => []
  | 0, item :: rest => change item :: rest
  | index + 1, item :: rest => item :: changeItem change index rest

/-- Changes what a list holds at an index. Indexes below zero count from the end. What is no list
becomes one, and a list that is too short is filled up. -/
def Value.changeIndex (value : Value) (index : Int) (change : Value → Value) : Value :=
  let (file, items) :=
    match value with
    | .list file items => (file, items)
    | _ => (none, [])
  let padding := fun (n : Nat) => List.replicate n Value.null
  let length : Int := items.length
  if 0 ≤ index then
    let position := index.toNat
    .list file (changeItem change position (items ++ padding (position + 1 - items.length)))
  else if 0 ≤ length + index then .list file (changeItem change (length + index).toNat items)
  else .list file (changeItem change 0 (padding (-(length + index)).toNat ++ items))

mutual

/-- Puts a value under a key. A table is merged into what stands there, key by key; anything else
replaces it. -/
def Value.assign (key : String) : Value → Value → Value
  | .table _ entries, target =>
    target.changeKey key (.table none []) (assignAll entries)
  | .scalar file value, target => target.changeKey key .null fun _ => .scalar file value
  | .list file items, target => target.changeKey key .null fun _ => .list file items

/-- Puts each entry of a table into another value. -/
def assignAll : List (String × Value) → Value → Value
  | [], target => target
  | (key, value) :: rest, target => assignAll rest (value.assign key target)

end

/-- Puts a value at a place. Everything on the way becomes a table or a list as the place asks. -/
def Value.put (value : Value) : List Step → Value → Value
  | [], _ => value
  | [.key name], target => value.assign name target
  | [.index index], target => target.changeIndex index fun _ => value
  | .key name :: rest, target => target.changeKey name .null (put value rest)
  | .index index :: rest, target => target.changeIndex index (put value rest)

end ObjectOutline.Settings
