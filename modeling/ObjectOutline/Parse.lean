import ObjectOutline.Region.Match
import ObjectOutline.Symbol.Build

/-! Parsing: from the text of a source to the symbols of its objects. It never fails; a text without
an object gives the symbol of an unparsed object and a diagnostic that says so. -/
namespace ObjectOutline

/-- Every object of a text. -/
structure ParsedFile where
  objects : List ObjectSymbol
  diagnostics : List Diagnostic
  deriving BEq, Repr

/-- One object. -/
structure Parsed where
  object : ObjectSymbol
  diagnostics : List Diagnostic
  deriving BEq, Repr

namespace Parsed

/-- Some diagnostic is a warning or worse. -/
def hasWarnings (parsed : Parsed) : Bool :=
  parsed.diagnostics.any Diagnostic.isWarningOrWorse

end Parsed

namespace Parse

/-- What an object of no supported type gives rise to, at its opening brace. An object whose type is
not known gives rise to nothing here. -/
def unsupported? (region : Region) : Option Finding :=
  match region.toSymbol with
  | .unsupported header =>
    if header.objectType = "" then none
    else some ⟨region.offset, .unsupportedType header.objectType⟩
  | .table _ | .page _ => none

/-- Every object of a text, one for each region at the top level. -/
def objects (maxDepth : Nat) (text : List Char) : ParsedFile :=
  let forest := Region.matchSource maxDepth text
  let findings := forest.findings ++ forest.regions.filterMap unsupported?
  ⟨forest.regions.map Region.toSymbol, findings.map (Finding.report text)⟩

/-- The first object of a text. -/
def text (maxDepth : Nat) (text : List Char) : Parsed :=
  let file := objects maxDepth text
  match file.objects with
  | [] => ⟨.unparsed, file.diagnostics ++ [Issue.noObject.report (some .start)]⟩
  | [object] => ⟨object, file.diagnostics⟩
  | object :: extra =>
    ⟨object, file.diagnostics ++ [(Issue.extraObjects extra.length).report none]⟩

end Parse
end ObjectOutline
