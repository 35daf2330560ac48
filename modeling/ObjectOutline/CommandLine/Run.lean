import ObjectOutline.CommandLine.Arguments
import ObjectOutline.Settings
import ObjectOutline.Summary

/-! Runs of the command line, as a function from the arguments and the files to what is printed. -/
namespace ObjectOutline.CommandLine

/-- What a run prints, and the code that it ends with. -/
structure Outcome where
  code : Nat
  stdout : String
  stderr : String
  deriving DecidableEq, Repr

/-- Why a run failed. -/
inductive Failure where
  | settings (cause : Settings.Error)
  | load (cause : LoadError)
  | format (cause : FormatError)
  | noObject (path : String)
  deriving DecidableEq, Repr

/-- The wording of a failure. -/
def Failure.message : Failure → String
  | settings cause => "configuration error: " ++ cause.message
  | load cause => cause.message
  | format cause => cause.message
  | noObject path => "no object declaration in " ++ path

/-- A run that succeeded. -/
def succeed (stdout stderr : String) : Outcome := ⟨0, stdout, stderr⟩

/-- A run that failed, after `stderr` was printed. -/
def fail (stderr : String) (failure : Failure) : Outcome :=
  ⟨1, "", stderr ++ "Error: " ++ failure.message ++ "\n"⟩

/-- A run whose arguments were not understood. -/
def misused : Outcome := ⟨2, "", "Error: the arguments were not understood\n"⟩

/-- The name and the version of the program. -/
def versionLine : String := "aldesign 0.1.0\n"

/-- A short description of the arguments. -/
def helpText : String :=
  "aldesign [--config FILE] parse PATH [--format FORMAT] [--properties]\n" ++
  "aldesign [--config FILE] summary PATH\n" ++
  "aldesign [--config FILE] list-formats\n"

/-- The overrides that the options of a command stand for. -/
def overrides : Command → List Settings.Override
  | .parse _ format showProperties =>
    (format.map fun format =>
      (⟨[.key "output", .key "format"], .text format⟩ : Settings.Override)).toList ++
    (if showProperties then [⟨[.key "output", .key "show_properties"], .boolean true⟩] else [])
  | .summary _ | .listFormats => []

/-- A text that ends in a line break. -/
def closeLine (text : String) : String :=
  if text.toList.getLast? = some '\n' then text else text ++ "\n"

/-- Prints the first object of a file. Its diagnostics go to the error output. -/
def runParse (files : FileReader) (settings : Settings) (path : String) : Outcome :=
  match Source.parse files settings.maxDepth path with
  | .error cause => fail "" (.load cause)
  | .ok parsed =>
    let notes := String.join (parsed.diagnostics.map fun diagnostic =>
      path ++ ": " ++ diagnostic.render ++ "\n")
    match settings.write parsed.object with
    | .error cause => fail notes (.format cause)
    | .ok text => succeed (closeLine text) notes

/-- The lines that show a summary. -/
def summaryText (summary : Summary) : String :=
  summary.objectType ++ " " ++ toString summary.id.toNat ++ " " ++ summary.name ++ "\n" ++
  (if summary.subType = "" then "" else "  type: " ++ summary.subType ++ "\n") ++
  String.join (summary.fields.map fun field => "  field: " ++ field ++ "\n")

/-- Prints the summary of the first object of a file. -/
def runSummary (files : FileReader) (path : String) : Outcome :=
  match Source.load files path with
  | .error cause => fail "" (.load cause)
  | .ok text =>
    match Summary.ofText? text with
    | none => fail "" (.noObject path)
    | some summary => succeed (summaryText summary) ""

/-- Prints the formats and marks the one that is used when none is asked for. -/
def runListFormats (settings : Settings) : Outcome :=
  let line := fun (format : Format) =>
    let mark := if format.name = settings.format then " (default)" else ""
    "  " ++ format.name ++ mark ++ "\n    " ++ format.description ++ "\n"
  succeed ("Available output formats:\n\n" ++ String.join (settings.registry.formats.map line)) ""

/-- Carries out a command. The settings are read first. -/
def runCommand (files : FileReader) (settingsFile : Option String) (command : Command) :
    Outcome :=
  match Settings.load files settingsFile.toList (overrides command) with
  | .error cause => fail "" (.settings cause)
  | .ok settings =>
    match command with
    | .parse path _ _ => runParse files settings path
    | .summary path => runSummary files path
    | .listFormats => runListFormats settings

/-- A whole run. -/
def run (files : FileReader) (arguments : List String) : Outcome :=
  match read arguments with
  | .run settingsFile command => runCommand files settingsFile command
  | .version => succeed versionLine ""
  | .help => succeed helpText ""
  | .misuse => misused

/-- The paths that a run may read. -/
def paths (arguments : List String) : List String :=
  match read arguments with
  | .run settingsFile command =>
    settingsFile.toList.flatMap Settings.candidates ++
    (match command with
      | .parse path _ _ => [path]
      | .summary path => [path]
      | .listFormats => [])
  | .version | .help | .misuse => []

end ObjectOutline.CommandLine
