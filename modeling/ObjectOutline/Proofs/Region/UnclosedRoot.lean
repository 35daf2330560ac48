import ObjectOutline.Proofs.Parse.TopLevel
import ObjectOutline.Proofs.Text.Slices

/-! The properties of an object that is never closed. They are read in front of the next opening brace, and
it does not matter what becomes of the block of that brace: it may be closed, it may be kept for what is in
it, and it may be left out because the source was cut off inside it. -/
namespace ObjectOutline

namespace Nesting

/-- The place of the first opening brace of code behind an offset. -/
def nextOpening? (text : List Char) (offset : Nat) : Option Nat :=
  ((braces text).find? fun brace => brace.isOpening && offset < brace.offset).map Brace.offset

/-- Behind a brace of code, the first opening brace is that of the first block of the text behind it. -/
theorem nextOpening?_append {before : List Char} (hCode : (Mode.code.run before).readsCode = true)
    (behind : List Char) :
    nextOpening? (before ++ '{' :: behind) (Text.byteLength before) =
      (Block.find? behind).map fun nested => Text.byteLength before + 1 + nested.openOffset := by
  have hOpens : (Mode.code.run before).opens '{' = true := Mode.opens_iff.mpr ⟨hCode, rfl⟩
  have hBefore : (Brace.ofText .code 0 before).find?
      (fun brace => brace.isOpening && Text.byteLength before < brace.offset) = none := by
    apply List.find?_eq_none.mpr
    intro brace hBrace hFound
    have hBounds := Brace.offset_bounds hBrace
    simp only [Bool.and_eq_true, decide_eq_true_eq] at hFound
    omega
  rw [nextOpening?, braces, Brace.ofText_append, Brace.ofText_cons_of_opens hOpens, Nat.zero_add,
    List.find?_append, hBefore, Option.none_or, List.find?_cons_of_neg (by simp [Brace.offset])]
  cases hFind : Block.find? behind with
  | none =>
      have hClosing := Brace.isOpening_of_mem_ofText (Text.byteLength before + 1)
        ((Block.find?_eq_none_iff behind).mp hFind)
      rw [List.find?_eq_none.mpr fun brace hBrace => by simp [hClosing brace hBrace]]
      rfl
  | some nested =>
      have hFirst := (Block.find?_eq_some_iff behind nested).mp hFind
      have hClosing := Brace.isOpening_of_mem_ofText (Text.byteLength before + 1) hFirst.preBraces
      obtain ⟨later, hBraces⟩ : ∃ later, Brace.ofText .code (Text.byteLength before + 1) behind =
          Brace.ofText .code (Text.byteLength before + 1) nested.pre ++
            .opening (Text.byteLength before + 1 + nested.openOffset) :: later := by
        cases hPost : nested.post with
        | none => exact ⟨_, hFirst.braces_of_unclosed hPost _⟩
        | some post => exact ⟨_, hFirst.braces_of_closed hPost _⟩
      rw [hBraces, List.find?_append,
        List.find?_eq_none.mpr fun brace hBrace => by simp [hClosing brace hBrace], Option.none_or,
        List.find?_cons_of_pos]
      · rfl
      · have hBehind : Text.byteLength before < Text.byteLength before + 1 + nested.openOffset := by omega
        simp [Brace.isOpening, Brace.offset, hBehind]

end Nesting

namespace Region

/-- The block is never closed, so a `field` is not read further than any other region. -/
theorem propertyText_of_unclosed {block : Block} (h : block.post = none) (keyword : String) :
    propertyText keyword block = ((Block.find? block.body).map Block.pre).getD [] := by
  have hUnclosed := Block.not_isClosed_of_post h
  rw [propertyText]
  cases Block.find? block.body <;> simp [hUnclosed]

/-- A region at the top level whose brace is never closed: everything behind its brace is its body. -/
theorem exists_body_of_unclosed {limit base : Nat} {text : List Char} {region : Region}
    (hRegion : region ∈ (matchFrom limit 0 base text).regions)
    (hUnclosed : region.offset ∈ Brace.stackAfter [] (Brace.ofText .code base text)) :
    ∃ before behind, text = before ++ '{' :: behind ∧ (Mode.code.run before).readsCode = true ∧
      region.offset = base + Text.byteLength before ∧
      region.properties = Property.ofLines (((Block.find? behind).map Block.pre).getD []) := by
  induction text using Block.induction generalizing base with
  | none text hNone =>
      rw [matchFrom_of_none _ _ _ hNone] at hRegion
      cases hRegion
  | closed text block post hFirst hPost ihBody ihPost =>
      rw [hFirst.stackAfter_of_closed hPost] at hUnclosed
      rw [matchFrom_of_closed _ _ _ hFirst hPost, Forest.regions_append, regions_ofBlock_zero,
        List.singleton_append, List.mem_cons] at hRegion
      rcases hRegion with rfl | hLater
      · -- What is left open stands behind the block, and so it is not the brace of the block.
        have hOpening := (((Brace.inOrder_ofText .code _ post).mem_stackAfter_iff _).mp
          hUnclosed).1.resolve_left List.not_mem_nil
        have hBounds := (Brace.offset_bounds hOpening).1
        simp only [Brace.offset, ofBody, Block.closeOffset, Block.bodyOffset] at hBounds
        omega
      · obtain ⟨before, behind, rfl, hCode, hOffset, hProperties⟩ := ihPost hLater hUnclosed
        have hClosed := Block.isClosed_of_post hPost
        have hShort := Block.isFirst_of_balanced hFirst.preMode hFirst.preBraces
          (hFirst.bodyMode hClosed) (hFirst.bodyBraces hClosed) before
        refine ⟨block.pre ++ '{' :: block.body ++ '}' :: before, behind, ?_, ?_, ?_, hProperties⟩
        · rw [hFirst.eq_of_closed hPost]
          simp
        · rw [hShort.run_of_closed rfl, hCode]
        · rw [hShort.byteLength_of_closed rfl, hOffset]
          simp only [Block.closeOffset, Block.bodyOffset, Block.openOffset]
          omega
  | unclosed text block hFirst hPost ihBody =>
      rw [matchFrom_of_unclosed _ _ _ hFirst hPost, regions_ofBlock_zero, List.mem_singleton] at hRegion
      subst hRegion
      refine ⟨block.pre, block.body, hFirst.eq_of_unclosed hPost, hFirst.preMode, rfl, ?_⟩
      rw [ofBody, propertyText_of_unclosed hPost]

/-- The properties of an object that is never closed are those on the lines between its brace and the next
opening brace of code, whatever is in it and whatever the limit; without another opening brace it has none.
So an object without regions in it has its header alone exactly when no property stands there. -/
theorem properties_of_unclosed (maxDepth : Nat) (text : List Char) (region : Region)
    (hRegion : region ∈ (matchSource maxDepth text).regions)
    (hUnclosed : region.offset ∈ Nesting.unclosed text) :
    (Nesting.nextOpening? text region.offset = none → region.properties = []) ∧
      ∀ next, Nesting.nextOpening? text region.offset = some next →
        ∃ between, Text.slice? (region.offset + 1) next text = some between ∧
          region.properties = Property.ofLines between := by
  rw [Nesting.unclosed, List.mem_reverse, Nesting.braces] at hUnclosed
  obtain ⟨before, behind, rfl, hCode, hOffset, hProperties⟩ :=
    exists_body_of_unclosed hRegion hUnclosed
  rw [Nat.zero_add] at hOffset
  rw [hOffset, Nesting.nextOpening?_append hCode, hProperties]
  cases hFind : Block.find? behind with
  | none =>
      refine ⟨fun _ => rfl, fun next hNext => ?_⟩
      cases hNext
  | some nested =>
      refine ⟨fun hNone => ?_, fun next hNext => ⟨nested.pre, ?_, rfl⟩⟩
      · cases hNone
      obtain rfl := Option.some.inj hNext
      have hNested := (Block.find?_eq_some_iff behind nested).mp hFind
      obtain ⟨later, hBehind⟩ := Block.IsFirst.body_prefix hNested
      have hSize : '{'.utf8Size = 1 := by decide
      refine (Text.slice?_eq_some_iff ..).mpr
        ⟨before ++ ['{'], '{' :: (nested.body ++ later), ?_, ?_, ?_⟩
      · rw [← hBehind]
        simp
      · simp [hSize]
      · simp [hSize, Block.openOffset, Nat.add_assoc]

/-- A codeunit that is cut off in its first section. The section holds nothing, so it is left out. -/
def cutOffCodeunit : List Char :=
  "codeunit 5 X\n\x7b\n P = v;\n fields\n \x7b\n".toList

theorem exists_region_cutOffCodeunit :
    ∃ region, (matchSource 64 cutOffCodeunit).regions = [region] ∧ region.offset = 13 ∧
      region.children = [] := by
  have hRegions : (matchSource 64 cutOffCodeunit).regions.map
      (fun region => (region.offset, region.children.isEmpty)) = [(13, true)] := by decide +kernel
  obtain ⟨region, hRegion, hFacts⟩ := List.map_eq_singleton_iff.mp hRegions
  obtain ⟨hOffset, hChildren⟩ := Prod.mk.inj hFacts
  exact ⟨region, hRegion, hOffset, List.isEmpty_iff.mp hChildren⟩

/-- The codeunit keeps the property in front of that section. -/
theorem properties_of_cutOffCodeunit :
    ∃ region ∈ (matchSource 64 cutOffCodeunit).regions,
      region.offset ∈ Nesting.unclosed cutOffCodeunit ∧ region.children = [] ∧
        Nesting.nextOpening? cutOffCodeunit region.offset = some 32 ∧
        region.properties = [⟨"P", "v"⟩] := by
  obtain ⟨region, hRegions, hOffset, hChildren⟩ := exists_region_cutOffCodeunit
  have hRegion : region ∈ (matchSource 64 cutOffCodeunit).regions := by
    rw [hRegions]
    exact List.mem_singleton_self region
  have hUnclosed : region.offset ∈ Nesting.unclosed cutOffCodeunit := by
    rw [hOffset]
    decide +kernel
  have hNext : Nesting.nextOpening? cutOffCodeunit region.offset = some 32 := by
    rw [hOffset]
    decide +kernel
  have hSlice : Text.slice? (13 + 1) 32 cutOffCodeunit = some "\n P = v;\n fields\n ".toList := by
    decide +kernel
  obtain ⟨between, hBetween, hProperties⟩ :=
    (properties_of_unclosed 64 cutOffCodeunit region hRegion hUnclosed).2 32 hNext
  rw [hOffset, hSlice, Option.some.injEq] at hBetween
  rw [← hBetween] at hProperties
  refine ⟨region, hRegion, hUnclosed, hChildren, hNext, hProperties.trans ?_⟩
  decide +kernel

/-- An object that is never closed and has no regions in it, and yet more than its header. -/
theorem cutOffCodeunit_not_header_only :
    Nesting.height cutOffCodeunit < 64 ∧
      ∃ region, (matchSource 64 cutOffCodeunit).regions.getLast? = some region ∧
        region.offset ∈ Nesting.unclosed cutOffCodeunit ∧ region.children = [] ∧
        region.properties ≠ [] := by
  obtain ⟨region, hRegions, hOffset, hChildren⟩ := exists_region_cutOffCodeunit
  have hProperties : (matchSource 64 cutOffCodeunit).regions.map Region.properties =
      [[⟨"P", "v"⟩]] := by decide +kernel
  rw [hRegions, List.map_singleton, List.cons.injEq] at hProperties
  refine ⟨by decide +kernel, region, by rw [hRegions]; rfl, ?_, hChildren, ?_⟩
  · rw [hOffset]
    decide +kernel
  · rw [hProperties.1]
    exact List.cons_ne_nil _ _

end Region
end ObjectOutline
