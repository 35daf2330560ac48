import ObjectOutline.Toml.Moment

/-! TOML documents as values, and the rules for building one up. A table is written by a header, by
a dotted key, or in braces. Each table is written once: a header may fill in a table that so far
exists only because a deeper header named it, and dotted keys may add to a table that dotted keys
began. -/
namespace ObjectOutline.Toml

/-- A value behind a key. A table in braces is complete. -/
inductive Value where
  | string (text : String)
  | integer (value : Int)
  | float (value : Float)
  | boolean (value : Bool)
  | moment (value : Moment)
  | array (items : List Value)
  | table (entries : List (String × Value))
  deriving Repr, Inhabited

/-- How a table came to be. -/
inductive Origin where
  /-- A header deeper down named it. -/
  | implied
  /-- A header opened it. -/
  | header
  /-- A dotted key named it. -/
  | dotted
  deriving DecidableEq, Repr

/-- A part of a document that is still being built. -/
inductive Item where
  | value (value : Value)
  | table (origin : Origin) (entries : List (String × Item))
  | tables (elements : List (List (String × Item)))
  deriving Repr, Inhabited

/-- The entries of a table that is still being built. -/
abbrev Entries := List (String × Item)

/-- Replaces the entry of a key by what `change` makes of it, or adds one at the end. -/
def changeEntry (key : String) (change : Option Item → Option Item) : Entries → Option Entries
  | [] => (change none).map fun item => [(key, item)]
  | (name, item) :: rest =>
    if name = key then (change (some item)).map fun item => (name, item) :: rest
    else (changeEntry key change rest).map fun rest => (name, item) :: rest

/-- Replaces the last element of a list by what `change` makes of it. -/
def changeLast {α : Type} (change : α → Option α) : List α → Option (List α)
  | [] => none
  | [last] => (change last).map fun last => [last]
  | first :: rest => (changeLast change rest).map fun rest => first :: rest

/-- Changes the table at the end of a path of headers. The last element stands for a list of
tables. -/
def changeTable (change : Entries → Option Entries) : List String → Entries → Option Entries
  | [], entries => change entries
  | key :: path, entries =>
    changeEntry key (fun
      | none => (changeTable change path []).map (.table .implied)
      | some (.table origin inner) => (changeTable change path inner).map (.table origin)
      | some (.tables elements) => (changeLast (changeTable change path) elements).map .tables
      | some (.value _) => none) entries

/-- Opens a table by its header. -/
def openTable (path : List String) (key : String) (document : Entries) : Option Entries :=
  changeTable (changeEntry key fun
    | none => some (.table .header [])
    | some (.table .implied entries) => some (.table .header entries)
    | some _ => none) path document

/-- Opens a further element of a list of tables by its header. -/
def openElement (path : List String) (key : String) (document : Entries) : Option Entries :=
  changeTable (changeEntry key fun
    | none => some (.tables [[]])
    | some (.tables elements) => some (.tables (elements ++ [[]]))
    | some _ => none) path document

/-- Adds an entry that is not there yet. -/
def addEntry (key : String) (value : Value) : Entries → Option Entries :=
  changeEntry key fun
    | none => some (.value value)
    | some _ => none

/-- Adds an entry below dotted keys. The tables on the way must not have been opened by a header,
and the last of them must have been begun by a dotted key. -/
def addDotted (key : String) (value : Value) : List String → Entries → Option Entries
  | [], entries => addEntry key value entries
  | name :: path, entries =>
    changeEntry name (fun
      | none => (addDotted key value path []).map (.table .dotted)
      | some (.table .dotted inner) => (addDotted key value path inner).map (.table .dotted)
      | some (.table .implied inner) =>
        if path.isEmpty then none else (addDotted key value path inner).map (.table .implied)
      | some (.tables elements) =>
        if path.isEmpty then none
        else (changeLast (addDotted key value path) elements).map .tables
      | some (.table .header _) | some (.value _) => none) entries

mutual

/-- The value that a finished part of a document is. -/
def Item.toValue : Item → Value
  | .value value => value
  | .table _ entries => .table (entriesToValues entries)
  | .tables elements => .array (elementsToValues elements)

/-- The values of the entries of a table. -/
def entriesToValues : List (String × Item) → List (String × Value)
  | [] => []
  | (key, item) :: rest => (key, item.toValue) :: entriesToValues rest

/-- The values of the elements of a list of tables. -/
def elementsToValues : List (List (String × Item)) → List Value
  | [] => []
  | entries :: rest => .table (entriesToValues entries) :: elementsToValues rest

end

end ObjectOutline.Toml
