import ObjectOutline.Parse
import ObjectOutline.Proofs.Parse.TopLevel
import ObjectOutline.Proofs.Summary.Declaration
import ObjectOutline.Proofs.Text.LastFilled

/-! Summaries against parsing. Both look for the header line of the first object, in different ways: parsing
takes the last filled line in front of the first opening brace of code, and the summary takes the first line
that looks like a header, whatever it is part of. Where no line in front of the header line looks like one,
they find the same line. -/
namespace ObjectOutline

/-- The object has a symbol of its own: it is a table or a page. -/
def ObjectSymbol.isTableOrPage : ObjectSymbol → Bool
  | table _ | page _ => true
  | unsupported _ => false

namespace Header

/-- The line says something behind its number. -/
def isNamed (line : List Char) : Bool :=
  match splitNumbered? (Text.trim line) with
  | some (_, _, rest) => !rest.isEmpty
  | none => false

end Header

namespace Region

theorem header_toSymbol (region : Region) : region.toSymbol.header = region.objectHeader := by
  rw [toSymbol]
  cases ObjectKind.ofType region.objectType <;> rfl

/-- An object type that is not set is none of those with a symbol of their own. -/
theorem toSymbol_of_objectType_eq_empty {region : Region} (h : region.objectType = "") :
    region.toSymbol = .unsupported region.objectHeader := by
  have hKind : ObjectKind.ofType "" = .other := by decide
  rw [toSymbol, h, hKind]

end Region

namespace Summary

/-- The summary of a text whose first declaration has a number that fits. -/
theorem ofText?_of_declaration? {text keyword digits name : List Char} {id : UInt32}
    (h : declaration? text = some (keyword, digits, name)) (hId : Text.word32? digits = some id) :
    ∃ summary, ofText? text = some summary ∧
      summary.objectType = String.ofList (Text.lowerAscii keyword) ∧ summary.id = id ∧
      summary.name = String.ofList (Text.stripQuotes name) := by
  rw [ofText?, h]
  simp only [hId]
  split
  · exact ⟨_, rfl, rfl, rfl, rfl⟩
  · exact ⟨_, rfl, rfl, rfl, rfl⟩

/-- The summary agrees with parsing. A text of which parsing makes a table or a page has a header line. Where
no line in front of it looks like a header, the summary has the type and the number of the object, unless
the opening brace stands directly behind the number. It has the name too when the header line has one,
without an `extends` clause, and the brace stands on a later line. -/
theorem ofText?_agrees (maxDepth : Nat) (text : List Char)
    (hTyped : (Parse.text maxDepth text).object.isTableOrPage = true) :
    ∃ block, Block.find? text = some block ∧
      (∃ before line gap, Text.IsLastFilled block.pre before line gap) ∧
      ∀ before line gap, Text.IsLastFilled block.pre before line gap →
        declaration? before = none →
        (Header.isNamed line = true ∨ ∃ c ∈ block.pre.getLast?, Text.isBlank c = true) →
        ∃ summary, ofText? text = some summary ∧
          summary.objectType = (Parse.text maxDepth text).object.header.objectType ∧
          summary.id = (Parse.text maxDepth text).object.header.id ∧
          (Header.isNamed line = true → (Parse.text maxDepth text).object.header.target = none →
            gap ≠ [] → summary.name = (Parse.text maxDepth text).object.header.name) := by
  cases hFind : Block.find? text with
  | none =>
      rw [Parse.object_of_find?_eq_none hFind] at hTyped
      cases hTyped
  | some block =>
      have hFirst := (Block.find?_eq_some_iff text block).mp hFind
      have hObject := Parse.object_of_isFirst hFirst maxDepth
      rw [hObject] at hTyped
      -- An object that has a symbol of its own has a numbered header.
      have hType : (Header.classify (Text.lastFilledLine block.pre)).objectType ≠ "" := by
        intro hNone
        rw [Region.toSymbol_of_objectType_eq_empty hNone] at hTyped
        cases hTyped
      have hFilled : Text.lastFilledLine block.pre ≠ [] := by
        intro hNone
        rw [hNone] at hType
        exact hType rfl
      refine ⟨block, rfl, Text.exists_isLastFilled hFilled, ?_⟩
      intro before line gap hLast hBefore hBehind
      obtain ⟨keyword, digits, rest, id, hSplit, hId, hKeyword, hNumber, hName⟩ :=
        Header.classify_of_objectType hType
      rw [hLast.lastFilledLine_eq, Text.trim_trim] at hSplit
      have hNamed : Header.isNamed line = true ↔ rest ≠ [] := by
        simp [Header.isNamed, hSplit]
      rw [hNamed] at hBehind
      obtain ⟨behind, hText⟩ := hFirst.body_prefix
      rw [List.append_assoc, List.cons_append] at hText
      obtain ⟨name, hDeclaration, hRest⟩ :=
        declaration?_of_isLastFilled hLast hSplit hBefore hBehind (block.body ++ behind)
      rw [hText] at hDeclaration
      obtain ⟨summary, hSummary, hSummaryType, hSummaryId, hSummaryName⟩ :=
        ofText?_of_declaration? hDeclaration hId
      rw [hObject, Region.header_toSymbol]
      refine ⟨summary, hSummary, hSummaryType.trans hKeyword.symm, ?_, fun hIsNamed hTarget hGap => ?_⟩
      · rw [hSummaryId, Region.objectHeader, Region.ofBody, hNumber, Option.getD_some]
      · rw [hSummaryName, hRest (hNamed.mp hIsNamed) hGap, Region.objectHeader, Region.nameText,
          Region.ofBody, hName hTarget, Option.getD_some]

/-- Both pass over a header in a line comment, and both read the name without its quotes. -/
theorem ofText?_agrees_behind_comment :
    (Parse.text 64
      "// page 2 B\n Page 1 \"A b\"\n \x7b\n\x7d".toList).object.isTableOrPage = true ∧
    ∃ summary, ofText? "// page 2 B\n Page 1 \"A b\"\n \x7b\n\x7d".toList = some summary ∧
      summary.objectType = (Parse.text 64
        "// page 2 B\n Page 1 \"A b\"\n \x7b\n\x7d".toList).object.header.objectType ∧
      summary.id = (Parse.text 64
        "// page 2 B\n Page 1 \"A b\"\n \x7b\n\x7d".toList).object.header.id ∧
      summary.name = (Parse.text 64
        "// page 2 B\n Page 1 \"A b\"\n \x7b\n\x7d".toList).object.header.name := by
  have hTyped : (Parse.text 64
      "// page 2 B\n Page 1 \"A b\"\n \x7b\n\x7d".toList).object.isTableOrPage = true := by
    decide +kernel
  have hFind : Block.find? "// page 2 B\n Page 1 \"A b\"\n \x7b\n\x7d".toList =
      some ⟨"// page 2 B\n Page 1 \"A b\"\n ".toList, "\n".toList, some []⟩ := by decide +kernel
  have hLast : Text.IsLastFilled "// page 2 B\n Page 1 \"A b\"\n ".toList "// page 2 B\n".toList
      " Page 1 \"A b\"".toList "\n ".toList :=
    ⟨by decide, Or.inr ⟨"// page 2 B".toList, by decide⟩, by decide, by decide,
      List.all_eq_true.mp (by decide), by simp⟩
  obtain ⟨block, hBlock, -, hAgrees⟩ := ofText?_agrees 64 _ hTyped
  obtain rfl := Option.some.inj (hFind.symm.trans hBlock)
  obtain ⟨summary, hSummary, hType, hId, hName⟩ :=
    hAgrees _ _ _ hLast (by decide +kernel) (Or.inl (by decide +kernel))
  exact ⟨hTyped, summary, hSummary, hType, hId,
    hName (by decide +kernel) (by decide +kernel) (by decide)⟩

/-- Parsing has nothing to report and finds a table or a page, and the summary does not have its type, its
number and its name. -/
def misses (text : List Char) : Bool :=
  (Parse.text 64 text).diagnostics.isEmpty &&
    (Parse.text 64 text).object.isTableOrPage &&
    !(ofText? text).any fun summary =>
      summary.objectType == (Parse.text 64 text).object.header.objectType &&
        summary.id == (Parse.text 64 text).object.header.id &&
        summary.name == (Parse.text 64 text).object.header.name

/-- None of the conditions can be left out: not the one on the lines in front of the header line, and for the
name not those on the brace, the clause and the name. -/
theorem misses_of_declaration_in_comment :
    misses "/*\ntable 2 B\n*/\ntable 1 A\n\x7b\n\x7d\n".toList = true ∧
      misses "table 1 A \x7b\n\x7d\n".toList = true ∧
      misses "table 1 A extends B\n\x7b\n\x7d\n".toList = true ∧
      misses "table 1\n\x7b\n\x7d\n".toList = true ∧
      misses "table 1\x7b\n\x7d\n".toList = true := by
  decide +kernel

end Summary
end ObjectOutline
