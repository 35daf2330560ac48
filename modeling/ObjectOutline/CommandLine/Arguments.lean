/-! The arguments of the command line. Options may stand before or after what they belong to, short
ones may be joined, and two dashes end them. Each option is given once; the settings file may be
named both before and after the command, and the later one counts. -/
namespace ObjectOutline.CommandLine

/-- What a run is asked to do. -/
inductive Command where
  | parse (path : String) (format : Option String) (showProperties : Bool)
  | summary (path : String)
  | listFormats
  deriving DecidableEq, Repr

/-- What the arguments ask for. -/
inductive Invocation where
  | run (settingsFile : Option String) (command : Command)
  | version
  | help
  | misuse
  deriving DecidableEq, Repr

/-- The commands by name, and what comes before them. -/
inductive Level where
  | top
  | parse
  | summary
  | listFormats
  deriving DecidableEq, Repr

/-- What the arguments read so far gave. -/
structure Given where
  level : Level := .top
  outerFile : Option String := none
  innerFile : Option String := none
  format : Option String := none
  showProperties : Bool := false
  path : Option String := none

/-- The options that take a value. -/
inductive ValueOption where
  | settingsFile
  | format
  deriving DecidableEq, Repr

namespace Given

/-- The option that takes a value and has this long name or this letter, where it may stand. -/
def valueOption? (given : Given) (name : String) : Option ValueOption :=
  if name = "config" ∨ name = "c" then some .settingsFile
  else if (name = "format" ∨ name = "f") ∧ given.level = .parse then some .format
  else none

/-- Notes the value of an option that was not given before. -/
def setOption (given : Given) (option : ValueOption) (value : String) : Option Given :=
  match option with
  | .format => if given.format.isSome then none else some { given with format := some value }
  | .settingsFile =>
    if given.level = .top then
      if given.outerFile.isSome then none else some { given with outerFile := some value }
    else if given.innerFile.isSome then none
    else some { given with innerFile := some value }

/-- Notes the flag that shows properties, where it may stand, once. -/
def setFlag (given : Given) : Option Given :=
  if given.level = .parse ∧ !given.showProperties then some { given with showProperties := true }
  else none

/-- Notes a path, where one may stand, once. -/
def setPath (given : Given) (path : String) : Option Given :=
  if (given.level = .parse ∨ given.level = .summary) ∧ given.path.isNone then
    some { given with path := some path }
  else none

/-- What the arguments ask for when no more follow. -/
def finish (given : Given) : Invocation :=
  let file := given.innerFile.or given.outerFile
  match given.level, given.path with
  | .parse, some path => .run file (.parse path given.format given.showProperties)
  | .summary, some path => .run file (.summary path)
  | .listFormats, none => .run file .listFormats
  | _, _ => .misuse

/-- Reads arguments that are all paths. -/
def readPaths (given : Given) : List String → Invocation
  | [] => given.finish
  | path :: rest =>
    match given.setPath path with
    | some given => given.readPaths rest
    | none => .misuse

end Given

/-- What a group of joined short options gives. -/
inductive ShortResult where
  | done (given : Given)
  | needsValue (given : Given) (option : ValueOption)
  | stop (invocation : Invocation)

/-- Reads the letters of joined short options. What follows the letter of an option with a value is
its value, an equals sign apart. -/
def readShort (given : Given) : List Char → ShortResult
  | [] => .done given
  | letter :: rest =>
    match given.valueOption? letter.toString with
    | some option =>
      match rest with
      | [] => .needsValue given option
      | _ =>
        let value := if rest.head? = some '=' then rest.drop 1 else rest
        match given.setOption option (String.ofList value) with
        | some given => .done given
        | none => .stop .misuse
    | none =>
      if letter = 'p' then
        match given.setFlag with
        | some given => readShort given rest
        | none => .stop .misuse
      else if letter = 'h' then .stop .help
      else if letter = 'V' ∧ given.level = .top then .stop .version
      else .stop .misuse

/-- Splits a long option at its equals sign. -/
def splitLong (cs : List Char) : String × Option String :=
  let name := String.ofList (cs.takeWhile (· != '='))
  match cs.dropWhile (· != '=') with
  | [] => (name, none)
  | _ :: value => (name, some (String.ofList value))

/-- Reads one long option. -/
def readLong (given : Given) (cs : List Char) : ShortResult :=
  let (name, value) := splitLong cs
  if name.length < 2 then .stop .misuse
  else match given.valueOption? name, value with
    | some option, none => .needsValue given option
    | some option, some value =>
      match given.setOption option value with
      | some given => .done given
      | none => .stop .misuse
    | none, some _ => .stop .misuse
    | none, none =>
      if name = "properties" then
        match given.setFlag with
        | some given => .done given
        | none => .stop .misuse
      else if name = "help" then .stop .help
      else if name = "version" ∧ given.level = .top then .stop .version
      else .stop .misuse

/-- Reads an argument that is no option: the command, or a path. -/
def readWord (given : Given) (word : String) : ShortResult :=
  if given.level = .top then
    match word with
    | "parse" => .done { given with level := .parse }
    | "summary" => .done { given with level := .summary }
    | "list-formats" => .done { given with level := .listFormats }
    | _ => .stop .misuse
  else
    match given.setPath word with
    | some given => .done given
    | none => .stop .misuse

/-- Reads one argument. -/
def readArgument (given : Given) (argument : String) : ShortResult :=
  match argument.toList with
  | '-' :: '-' :: name => readLong given name
  | '-' :: letter :: letters => readShort given (letter :: letters)
  | _ => readWord given argument

/-- An argument that can be the value of an option: it starts with no dash, or is a dash alone. -/
def canBeValue (argument : String) : Bool :=
  match argument.toList with
  | '-' :: _ :: _ => false
  | _ => true

/-- What `help` can be asked about: everything, or one command. -/
def isHelpTopic : List String → Bool
  | [] => true
  | [command] => ["parse", "summary", "list-formats", "help"].contains command
  | _ => false

/-- Reads the arguments; `pending` is an option whose value comes next. -/
def readFrom (given : Given) (pending : Option ValueOption) : List String → Invocation
  | [] => if pending.isSome then .misuse else given.finish
  | argument :: rest =>
    match pending with
    | some option =>
      if canBeValue argument then
        match given.setOption option argument with
        | some given => readFrom given none rest
        | none => .misuse
      else .misuse
    | none =>
      if argument = "--" then
        if given.level = .top then .misuse else given.readPaths rest
      else if given.level = .top ∧ argument = "help" then
        if isHelpTopic rest then .help else .misuse
      else match readArgument given argument with
        | .done given => readFrom given none rest
        | .needsValue given option => readFrom given (some option) rest
        | .stop invocation => invocation

/-- Reads the arguments of a run. -/
def read (arguments : List String) : Invocation :=
  readFrom {} none arguments

end ObjectOutline.CommandLine
