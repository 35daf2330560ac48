import ObjectOutline.Parse
import ObjectOutline.Proofs.Brace.Complete
import ObjectOutline.Proofs.Brace.Passed
import ObjectOutline.Proofs.Region.Findings
import ObjectOutline.Proofs.Region.Moved
import ObjectOutline.Proofs.Symbol.Placed
import ObjectOutline.Proofs.Text.LastFilled
import ObjectOutline.Proofs.Text.Position

/-! One source behind another. A complete source has no part in what is matched behind it: the two
have together the regions, the diagnostics and the objects that each has by itself, those of the second
at their places in the whole. -/
namespace ObjectOutline

/-- The same diagnostic, `lines` lines further down. -/
def Diagnostic.down (lines : Nat) (diagnostic : Diagnostic) : Diagnostic :=
  { diagnostic with position := diagnostic.position.map (Position.down lines) }

theorem Forest.append_assoc (first second third : Forest) :
    first ++ second ++ third = first ++ (second ++ third) :=
  ext (by simp) (by simp)

theorem Forest.empty_append (forest : Forest) : Forest.empty ++ forest = forest :=
  rfl

namespace Region

variable {source blanks : List Char}

/-- The region of a block is the same behind blank lines, at its place there. -/
theorem ofBlock_behind (hLine : Text.EndsLine blanks) (hBlank : ∀ c ∈ blanks, Text.isBlank c = true)
    (limit depth base : Nat) (block : Block) (inner : Forest) :
    ofBlock limit depth base (block.behind blanks) inner =
      ofBlock limit depth (base + Text.byteLength blanks) block inner := by
  have hHeader : Text.lastFilledLine (block.behind blanks).pre = Text.lastFilledLine block.pre :=
    Text.lastFilledLine_blank_append hLine hBlank block.pre
  have hOffset : base + (block.behind blanks).openOffset =
      base + Text.byteLength blanks + block.openOffset := by
    rw [Block.openOffset_behind, Nat.add_assoc, Nat.add_comm block.openOffset]
  rw [ofBlock, hHeader, hOffset]
  rfl

theorem matchBody_behind (limit depth base : Nat) (lead : List Char) (block : Block) :
    matchBody limit depth base (block.behind lead) =
      matchBody limit depth (base + Text.byteLength lead) block := by
  have hPlace : base + (block.behind lead).bodyOffset =
      base + Text.byteLength lead + block.bodyOffset := by
    rw [Block.bodyOffset_behind, Nat.add_assoc, Nat.add_comm block.bodyOffset]
  rw [matchBody, matchBody, hPlace]
  rfl

/-- Blank lines in front of a text only move what is matched in it. -/
theorem matchFrom_blank_append (hLine : Text.EndsLine blanks)
    (hBlank : ∀ c ∈ blanks, Text.isBlank c = true) (limit depth base : Nat) (text : List Char) :
    matchFrom limit depth base (blanks ++ text) =
      matchFrom limit depth (base + Text.byteLength blanks) text := by
  have hPasses : Mode.code.Passes blanks .code :=
    Mode.passes_of_isPlain fun c hc => Mode.isPlain_of_isBlank (hBlank c hc)
  cases hFind : Block.find? text with
  | none =>
      have hNone : Block.find? (blanks ++ text) = none := by
        rw [Block.find?_append_of_passes hPasses, hFind, Option.map_none]
      rw [matchFrom_of_none _ _ _ hNone, matchFrom_of_none _ _ _ hFind]
  | some block =>
      have hFirst := (Block.find?_eq_some_iff text block).mp hFind
      have hBehind := hFirst.behind hPasses
      cases hPost : block.post with
      | none =>
          rw [matchFrom_of_unclosed _ _ _ hBehind hPost, matchFrom_of_unclosed _ _ _ hFirst hPost,
            ofBlock_behind hLine hBlank, matchBody_behind]
      | some post =>
          have hPlace : base + (block.behind blanks).closeOffset =
              base + Text.byteLength blanks + block.closeOffset := by
            rw [Block.closeOffset_behind, Nat.add_assoc, Nat.add_comm block.closeOffset]
          rw [matchFrom_of_closed _ _ _ hBehind hPost, matchFrom_of_closed _ _ _ hFirst hPost,
            ofBlock_behind hLine hBlank, matchBody_behind, hPlace]

/-- Behind a complete source, a text is matched as it is by itself. -/
theorem matchFrom_append (h : Text.IsComplete source) (limit depth base : Nat) (text : List Char) :
    matchFrom limit depth base (source ++ text) =
      matchFrom limit depth base source ++
        matchFrom limit depth (base + Text.byteLength source) text := by
  induction source using Block.induction generalizing base with
  | none source hNone =>
      -- Only blank lines are left, which have no part in the header of a block behind them.
      rw [matchFrom_blank_append h.lines (h.isBlank_of_find?_eq_none hNone),
        matchFrom_of_none _ _ _ hNone, Forest.empty_append]
  | closed source block post hFirst hPost ihBody ihPost =>
      have hPlace : base + block.closeOffset + 1 + Text.byteLength post =
          base + Text.byteLength source := by
        rw [hFirst.byteLength_of_closed hPost]
        omega
      rw [matchFrom_of_closed _ _ _ (hFirst.append_of_closed hPost text) rfl,
        matchFrom_of_closed _ _ _ hFirst hPost, ofBlock_post _ _ _ hPost, Forest.append_assoc,
        ← hPlace]
      exact congrArg _ (ihPost (h.post hFirst hPost) _)
  | unclosed source block hFirst hPost ihBody => exact absurd hPost (hFirst.post_ne_none h.depth)

theorem matchSource_append (h : Text.IsComplete source) (maxDepth : Nat) (text : List Char) :
    matchSource maxDepth (source ++ text) =
      matchSource maxDepth source ++
        (matchSource maxDepth text).moved (Text.byteLength source) := by
  rw [matchSource, matchFrom_append h, matchFrom_add]
  rfl

/-- A finding in the first part of a text is reported where it is. -/
theorem report_append_of_mem {limit depth : Nat} {finding : Finding}
    (h : finding ∈ (matchFrom limit depth 0 source).findings) (text : List Char) :
    finding.report (source ++ text) = finding.report source := by
  have hBounds := Brace.offset_bounds (opening_of_mem_findings h)
  have hInside : finding.offset ≤ Text.byteLength source := by
    simp only [Brace.offset] at hBounds
    omega
  rw [Finding.report, Position.ofOffset_append_left hInside, Finding.report]

/-- A finding behind whole lines is reported as many lines further down. -/
theorem report_moved (h : Text.EndsLine source) (finding : Finding) (text : List Char) :
    (finding.moved (Text.byteLength source)).report (source ++ text) =
      (finding.report text).down (source.count '\n') := by
  rw [Finding.report, Finding.moved, Position.ofOffset_append_right h]
  rfl

theorem diagnostics_append (h : Text.IsComplete source) (maxDepth : Nat) (text : List Char) :
    diagnostics maxDepth (source ++ text) =
      diagnostics maxDepth source ++
        (diagnostics maxDepth text).map (Diagnostic.down (source.count '\n')) := by
  rw [diagnostics, matchSource_append h, Forest.findings_append, Forest.findings_moved,
    List.map_append, List.map_map, diagnostics, diagnostics, List.map_map]
  congr 1
  · exact List.map_congr_left fun finding hMem => report_append_of_mem hMem text
  · exact List.map_congr_left fun finding _ => report_moved h.lines finding text

theorem map_toSymbol_append (h : Text.IsComplete source) (maxDepth : Nat) (text : List Char) :
    (matchSource maxDepth (source ++ text)).regions.map toSymbol =
      (matchSource maxDepth source).regions.map toSymbol ++
        (matchSource maxDepth text).regions.map toSymbol := by
  rw [matchSource_append h, Forest.regions_append, Forest.regions_moved, movedAll_eq_placedAll,
    List.map_append, map_placedAll _ (toSymbol_placed _)]

end Region

/-- A text behind a complete source gives what both give by themselves: first the regions, the
diagnostics and the objects of the source, then those of the text, with the offsets moved by the bytes
of the source and the positions moved down by its lines. The text may be malformed. -/
theorem Parse.append_of_isComplete {source : List Char} (h : Text.IsComplete source)
    (maxDepth : Nat) (text : List Char) :
    (Region.matchSource maxDepth (source ++ text)).regions =
        (Region.matchSource maxDepth source).regions ++
          Region.movedAll (Text.byteLength source) (Region.matchSource maxDepth text).regions ∧
      Region.diagnostics maxDepth (source ++ text) =
        Region.diagnostics maxDepth source ++
          (Region.diagnostics maxDepth text).map (Diagnostic.down (source.count '\n')) ∧
      (Parse.objects maxDepth (source ++ text)).objects =
        (Parse.objects maxDepth source).objects ++ (Parse.objects maxDepth text).objects :=
  ⟨congrArg Forest.regions (Region.matchSource_append h maxDepth text),
    Region.diagnostics_append h maxDepth text, Region.map_toSymbol_append h maxDepth text⟩

/-- The first source is complete although its comment and its literal hold braces, and the text behind
it has a stray brace, an odd header and a block that is never closed. -/
theorem Parse.append_of_codeunit_and_page :
    Text.IsComplete "codeunit 1 A \x7b // \x7b\nX = '\x7d';\n\x7d\n \n".toList ∧
      (Region.matchSource 9 ("codeunit 1 A \x7b // \x7b\nX = '\x7d';\n\x7d\n \n".toList ++
          "\x7d\n?\n\x7b \x7d page 2 B \x7b".toList)).regions =
        (Region.matchSource 9 "codeunit 1 A \x7b // \x7b\nX = '\x7d';\n\x7d\n \n".toList).regions ++
          Region.movedAll 33
            (Region.matchSource 9 "\x7d\n?\n\x7b \x7d page 2 B \x7b".toList).regions ∧
      Region.diagnostics 9 ("codeunit 1 A \x7b // \x7b\nX = '\x7d';\n\x7d\n \n".toList ++
          "\x7d\n?\n\x7b \x7d page 2 B \x7b".toList) =
        Region.diagnostics 9 "codeunit 1 A \x7b // \x7b\nX = '\x7d';\n\x7d\n \n".toList ++
          (Region.diagnostics 9 "\x7d\n?\n\x7b \x7d page 2 B \x7b".toList).map
            (Diagnostic.down 4) ∧
      (Parse.objects 9 ("codeunit 1 A \x7b // \x7b\nX = '\x7d';\n\x7d\n \n".toList ++
          "\x7d\n?\n\x7b \x7d page 2 B \x7b".toList)).objects =
        (Parse.objects 9 "codeunit 1 A \x7b // \x7b\nX = '\x7d';\n\x7d\n \n".toList).objects ++
          (Parse.objects 9 "\x7d\n?\n\x7b \x7d page 2 B \x7b".toList).objects := by
  have hGap : (Brace.lastGap .code
      "codeunit 1 A \x7b // \x7b\nX = '\x7d';\n\x7d\n \n".toList).all Text.isBlank = true := by decide
  have hComplete :
      Text.IsComplete "codeunit 1 A \x7b // \x7b\nX = '\x7d';\n\x7d\n \n".toList :=
    ⟨Or.inr ⟨"codeunit 1 A \x7b // \x7b\nX = '\x7d';\n\x7d\n ".toList, by decide⟩, by decide,
      List.all_eq_true.mp hGap⟩
  exact ⟨hComplete, append_of_isComplete hComplete 9 "\x7d\n?\n\x7b \x7d page 2 B \x7b".toList⟩

end ObjectOutline
