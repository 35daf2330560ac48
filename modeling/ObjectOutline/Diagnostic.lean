import ObjectOutline.Position

/-! Diagnostics. Reading a source never fails: what is wrong with it is an `Issue`, which knows its
code and its wording, and a diagnostic is an issue placed in the text. -/
namespace ObjectOutline

/-- How serious a diagnostic is. -/
inductive Severity where
  | error
  | warning
  | information
  | hint
  deriving DecidableEq, Repr, Inhabited

namespace Severity

/-- The name that data formats use. -/
def name : Severity → String
  | error => "error"
  | warning => "warning"
  | information => "information"
  | hint => "hint"

/-- The shorter word that messages start with. -/
def label : Severity → String
  | error => "error"
  | warning => "warning"
  | information => "info"
  | hint => "hint"

end Severity

/-- The kinds of things that can be wrong with a source. -/
inductive DiagnosticCode where
  | unbalancedBrace
  | unrecognizedHeader
  | invalidObjectId
  | depthLimit
  | unsupportedObject
  | noObject
  | extraObject
  deriving DecidableEq, Repr, Inhabited

namespace DiagnosticCode

/-- Every code, in the order of their declaration. -/
def all : List DiagnosticCode :=
  [unbalancedBrace, unrecognizedHeader, invalidObjectId, depthLimit, unsupportedObject, noObject,
    extraObject]

/-- The name that messages and data formats use. -/
def name : DiagnosticCode → String
  | unbalancedBrace => "unbalanced-brace"
  | unrecognizedHeader => "unrecognized-header"
  | invalidObjectId => "invalid-object-id"
  | depthLimit => "depth-limit"
  | unsupportedObject => "unsupported-object"
  | noObject => "no-object"
  | extraObject => "extra-object"

/-- Each code has one severity. Lost structure is a warning, an odd header a hint. -/
def severity : DiagnosticCode → Severity
  | unbalancedBrace | depthLimit | noObject => .warning
  | unrecognizedHeader | invalidObjectId => .hint
  | unsupportedObject | extraObject => .information

end DiagnosticCode

/-- One message about a source. -/
structure Diagnostic where
  severity : Severity
  code : DiagnosticCode
  message : String
  position : Option Position
  deriving DecidableEq, Repr, Inhabited

namespace Diagnostic

/-- A message with the severity of its code. -/
def ofCode (code : DiagnosticCode) (message : String) (position : Option Position) : Diagnostic :=
  ⟨code.severity, code, message, position⟩

/-- The diagnostic is a warning or an error. -/
def isWarningOrWorse (diagnostic : Diagnostic) : Bool :=
  diagnostic.severity == .error || diagnostic.severity == .warning

/-- The diagnostic on one line. -/
def render (diagnostic : Diagnostic) : String :=
  let text := diagnostic.severity.label ++ " [" ++ diagnostic.code.name ++ "]: " ++
    diagnostic.message
  match diagnostic.position with
  | some position => text ++ " at " ++ position.render
  | none => text

end Diagnostic

/-- What can be wrong with a source, with what its message names. -/
inductive Issue where
  /-- An opening brace is never closed. -/
  | neverClosed (keyword : String)
  /-- There is no filled line in front of an opening brace. -/
  | headerMissing
  /-- The header line has none of the known forms. -/
  | headerUnrecognized (line : String)
  /-- The object number does not fit 32 bits. -/
  | idOutOfRange (line : String)
  /-- Regions are nested deeper than the limit. -/
  | nestedTooDeep (keyword : String) (limit : Nat)
  /-- The object is neither a table nor a page. -/
  | unsupportedType (objectType : String)
  /-- There is no object in the source. -/
  | noObject
  /-- More regions follow the first object. -/
  | extraObjects (count : Nat)
  deriving DecidableEq, Repr

namespace Issue

/-- The code under which an issue is reported. -/
def code : Issue → DiagnosticCode
  | neverClosed _ => .unbalancedBrace
  | headerMissing | headerUnrecognized _ => .unrecognizedHeader
  | idOutOfRange _ => .invalidObjectId
  | nestedTooDeep _ _ => .depthLimit
  | unsupportedType _ => .unsupportedObject
  | noObject => .noObject
  | extraObjects _ => .extraObject

/-- The wording of an issue. -/
def message : Issue → String
  | neverClosed keyword => "'" ++ keyword ++ "' is never closed; closed at end of input"
  | headerMissing => "region has no header line"
  | headerUnrecognized line => "unrecognized region header '" ++ line ++ "'"
  | idOutOfRange line => "object id out of range in '" ++ line ++ "'"
  | nestedTooDeep keyword limit =>
    "'" ++ keyword ++ "' nests deeper than " ++ toString limit ++ " levels; children dropped"
  | unsupportedType objectType =>
    "'" ++ objectType ++ "' objects have no typed symbol; header only"
  | noObject => "no object declaration found"
  | extraObjects count =>
    toString count ++ " more top-level region(s) after the first object ignored"

/-- The diagnostic for an issue, placed or not. -/
def report (issue : Issue) (position : Option Position) : Diagnostic :=
  Diagnostic.ofCode issue.code issue.message position

end Issue

/-- An issue at a byte offset of the source. -/
structure Finding where
  offset : Nat
  issue : Issue
  deriving DecidableEq, Repr

/-- The diagnostic for a finding in `source`. -/
def Finding.report (source : List Char) (finding : Finding) : Diagnostic :=
  finding.issue.report (some (Position.ofOffset source finding.offset))

end ObjectOutline
