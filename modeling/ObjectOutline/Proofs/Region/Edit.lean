import ObjectOutline.Proofs.Brace.Body
import ObjectOutline.Proofs.Brace.Unclosed
import ObjectOutline.Proofs.Region.Moved
import ObjectOutline.Proofs.Region.Occurrence

/-! Edits inside one block. Replacing the body of a block by another body changes the properties and
the nested regions of that block, and else only what is read to the end of a body: the properties of
enclosing `field` regions. Headers are read in front of a brace and other properties in front of the
first nested brace, so no other region sees the edit. -/
namespace ObjectOutline

/-- The opening brace of code that is written behind a text. -/
def Nesting.openingBehind (before : List Char) : Opening :=
  ⟨Text.byteLength before, Brace.stackAfter [] (braces before)⟩

namespace Region

mutual

/-- A region as far as the body of the edited block, which takes `length` bytes, has no part in it.
The edited region keeps its header only, a `field` around it loses its properties, and what stands
behind the body stands where it would stand if the body were empty. -/
def outside (edited : Opening) (length : Nat) : Region → Region
  | ⟨keyword, id, name, objectType, target, source, offset, properties, children⟩ =>
      ⟨keyword, id, name, objectType, target, source,
        if offset ≤ edited.offset then offset else offset - length,
        if offset = edited.offset ∨ offset ∈ edited.around ∧ keyword = "field" then []
        else properties,
        if offset = edited.offset then [] else outsideAll edited length children⟩

/-- The same for every region of a list. -/
def outsideAll (edited : Opening) (length : Nat) : List Region → List Region
  | [] => []
  | region :: rest => outside edited length region :: outsideAll edited length rest

end

variable {edited : Opening}

theorem outside_eq (edited : Opening) (length : Nat) (region : Region) :
    outside edited length region =
      { region with
        offset := if region.offset ≤ edited.offset then region.offset else region.offset - length
        properties :=
          if region.offset = edited.offset ∨
            region.offset ∈ edited.around ∧ region.keyword = "field" then [] else region.properties
        children :=
          if region.offset = edited.offset then []
          else outsideAll edited length region.children } := by
  cases region
  rw [outside]

theorem outsideAll_eq_map (edited : Opening) (length : Nat) (regions : List Region) :
    outsideAll edited length regions = regions.map (outside edited length) := by
  induction regions with
  | nil => rw [outsideAll, List.map_nil]
  | cons region rest ih => rw [outsideAll, ih, List.map_cons]

theorem outsideAll_append (edited : Opening) (length : Nat) (first second : List Region) :
    outsideAll edited length (first ++ second) =
      outsideAll edited length first ++ outsideAll edited length second := by
  simp only [outsideAll_eq_map, List.map_append]

theorem outsideAll_eq_nil_iff (edited : Opening) (length : Nat) (regions : List Region) :
    outsideAll edited length regions = [] ↔ regions = [] := by
  rw [outsideAll_eq_map, List.map_eq_nil_iff]

/-- The length of the body does not matter to the regions in front of it. -/
theorem outsideAll_of_before (around : List Nat) {regions : List Region}
    (h : ∀ x ∈ occurrencesAll around regions, x.region.offset < edited.offset) (length : Nat) :
    outsideAll edited length regions = outsideAll edited 0 regions := by
  induction regions using inductionAll generalizing around with
  | nil => rw [outsideAll, outsideAll]
  | cons region rest ihInner ihRest =>
      rw [occurrencesAll_cons, List.forall_mem_append, List.forall_mem_cons] at h
      obtain ⟨⟨hOwn, hInner⟩, hRest⟩ := h
      rw [outsideAll, outsideAll, outside_eq, outside_eq, ihInner _ hInner, ihRest _ hRest]
      simp only [Nat.le_of_lt hOwn, if_true]

/-- The regions behind the body have no part of it, and stand as much further on as it is long. -/
theorem outsideAll_movedAll (hAround : ∀ o ∈ edited.around, o < edited.offset)
    (around : List Nat) {regions : List Region}
    (h : ∀ x ∈ occurrencesAll around regions, edited.offset < x.region.offset) (length : Nat) :
    outsideAll edited length (movedAll length regions) = regions := by
  induction regions using inductionAll generalizing around with
  | nil => rw [movedAll, outsideAll]
  | cons region rest ihInner ihRest =>
      rw [occurrencesAll_cons, List.forall_mem_append, List.forall_mem_cons] at h
      obtain ⟨⟨hOwn, hInner⟩, hRest⟩ := h
      simp only at hOwn
      have hBehind : ¬region.offset + length ≤ edited.offset := by omega
      have hNotEdited : region.offset + length ≠ edited.offset := by omega
      have hNotAround : region.offset + length ∉ edited.around := fun hMem => by
        have hBefore := hAround _ hMem
        omega
      rw [movedAll, outsideAll, outside_eq, moved_eq, ihRest _ hRest]
      simp only [hBehind, hNotEdited, hNotAround, if_false, false_and, or_false, ihInner _ hInner,
        Nat.add_sub_cancel]
      cases region
      rfl

section

variable {left : List Char} {limit depth base : Nat}

theorem occurrences_before (limit depth : Nat) (around : List Nat)
    (hOffset : edited.offset = base + Text.byteLength left) :
    ∀ x ∈ occurrencesAll around (matchFrom limit depth base left).regions,
      x.region.offset < edited.offset := by
  intro x hx
  have hBounds := Brace.offset_bounds (opening_of_mem_occurrencesAll hx)
  rw [hOffset]
  exact hBounds.2

/-- What is matched behind the body is found again, whatever length the body has. -/
theorem outsideAll_matchFrom_behind (hAround : ∀ o ∈ edited.around, o < edited.offset)
    (hBase : edited.offset < base) (length : Nat) (text : List Char) :
    outsideAll edited length (matchFrom limit depth (base + length) text).regions =
      (matchFrom limit depth base text).regions := by
  rw [matchFrom_add, Forest.regions_moved]
  refine outsideAll_movedAll hAround [] ?_ length
  intro x hx
  have hBounds := Brace.offset_bounds (opening_of_mem_occurrencesAll hx)
  simp only [Brace.offset] at hBounds
  omega

/-- An enclosing region keeps its header and place. Its properties end at the first nested brace, in
front of the edited block or at it, unless it is a `field`. -/
theorem exists_outside_ofBody (hAround : ∀ o ∈ edited.around, o < edited.offset)
    (hOwn : base + Text.byteLength left ∈ edited.around) {lead : List Char}
    (hMode : (Mode.code.run lead).readsCode = true) (inside : List Char)
    (rest : Option (List Char)) (children : List Region) :
    ∃ seen, ∀ body, Text.IsBody body → ∀ inner : Forest,
      outsideAll edited (Text.byteLength body) inner.regions = children →
        outside edited (Text.byteLength body)
          (ofBody base ⟨left, lead ++ '{' :: (body ++ '}' :: inside), rest⟩ inner) = seen := by
  obtain ⟨pre, hPre⟩ := Block.exists_pre hMode inside
  have hBefore := hAround _ hOwn
  let header := Header.classify (Text.lastFilledLine left)
  refine ⟨{ ofBody base ⟨left, [], rest⟩ .empty with
    properties := if header.keyword = "field" then [] else Property.ofLines pre
    children := children }, fun body hBody inner hInner => ?_⟩
  obtain ⟨nested, hNested, rfl⟩ := Option.map_eq_some_iff.mp (hPre body hBody)
  have hProperties (hField : header.keyword ≠ "field") :
      propertyText header.keyword ⟨left, lead ++ '{' :: (body ++ '}' :: inside), rest⟩ =
        nested.pre := by
    simp [propertyText, hNested, hField]
  simp only [outside_eq, ofBody, Block.openOffset, Nat.le_of_lt hBefore, Nat.ne_of_lt hBefore, hOwn,
    hInner, if_true, if_false, false_or, true_and]
  by_cases hField : header.keyword = "field"
  · simp only [header] at hField ⊢
    simp only [hField, if_true]
  · simp only [header] at hField hProperties ⊢
    simp only [hField, if_false, hProperties hField]

theorem exists_outsideAll_ofBlock (hAround : ∀ o ∈ edited.around, o < edited.offset)
    (hOwn : base + Text.byteLength left ∈ edited.around) {lead : List Char}
    (hMode : (Mode.code.run lead).readsCode = true) (limit depth : Nat) (inside : List Char)
    (rest : Option (List Char)) (children : List Region) :
    ∃ seen, ∀ body, Text.IsBody body → ∀ inner : Forest,
      outsideAll edited (Text.byteLength body) inner.regions = children →
        outsideAll edited (Text.byteLength body) (ofBlock limit depth base
          ⟨left, lead ++ '{' :: (body ++ '}' :: inside), rest⟩ inner).regions = seen := by
  obtain ⟨seen, hSeen⟩ := exists_outside_ofBody hAround hOwn hMode inside rest children
  refine ⟨if rest.isSome = false ∧ children = [] ∧ 0 < depth then [] else [seen],
    fun body hBody inner hInner => ?_⟩
  -- Whether the block is left out shows outside, because no region inside it is lost on the way.
  have hNone : inner.regions = [] ↔ children = [] := by
    rw [← hInner, outsideAll_eq_nil_iff]
  rw [regions_ofBlock, Block.isClosed]
  by_cases hCut : rest.isSome = false ∧ inner.regions = [] ∧ 0 < depth
  · rw [if_pos hCut, if_pos ⟨hCut.1, hNone.mp hCut.2.1, hCut.2.2⟩, outsideAll]
  · rw [if_neg hCut, if_neg fun h => hCut ⟨h.1, hNone.mpr h.2.1, h.2.2⟩, outsideAll_eq_map,
      List.map_singleton, hSeen body hBody inner hInner]

/-- Seen from outside, what is matched does not depend on the body. The induction goes along `left`,
the text in front of the body: either the body is that of its first block, or it lies behind that
block, or the block is still open and is matched with the body in it. -/
theorem exists_outsideAll_matchFrom (hAround : ∀ o ∈ edited.around, o < edited.offset)
    (limit depth base : Nat) (left right : List Char)
    (hMode : (Mode.code.run left).readsCode = true)
    (hOffset : edited.offset = base + Text.byteLength left)
    (hOpen : ∀ o ∈ Brace.stackAfter [] (Brace.ofText .code base left), o ∈ edited.around) :
    ∃ seen, ∀ body, Text.IsBody body →
      outsideAll edited (Text.byteLength body)
        (matchFrom limit depth base (left ++ '{' :: (body ++ '}' :: right))).regions = seen := by
  induction left using Block.induction generalizing depth base right with
  | none left hNone =>
      -- The first block is the edited one.
      have hPre := (Block.find?_eq_none_iff left).mp hNone
      refine ⟨{ ofBody base ⟨left, [], some right⟩ .empty with properties := [], children := [] } ::
        (matchFrom limit depth (edited.offset + 2) right).regions, fun body hBody => ?_⟩
      have hFirst := hBody.isFirst hMode hPre right
      have hPlace : base + (Block.mk left body (some right)).closeOffset + 1 =
          edited.offset + 2 + Text.byteLength body := by
        simp only [Block.closeOffset, Block.bodyOffset, Block.openOffset]
        omega
      rw [matchFrom_of_closed _ _ _ hFirst rfl, Forest.regions_append, outsideAll_append,
        regions_ofBlock, if_neg (by simp [Block.isClosed]), hPlace,
        outsideAll_matchFrom_behind hAround (by omega), outsideAll_eq_map, List.map_singleton,
        outside_eq]
      simp only [ofBody, Block.openOffset, ← hOffset, Nat.le_refl, if_true, true_or]
      rfl
  | closed left block post hFirst hPost ihBody ihPost =>
      -- The first block ends in front of the body, and so it is the same for every body.
      have hLength := hFirst.byteLength_of_closed hPost
      rw [hFirst.run_of_closed hPost] at hMode
      rw [hFirst.stackAfter_of_closed hPost] at hOpen
      obtain ⟨seen, hSeen⟩ := ihPost depth (base + block.closeOffset + 1) right hMode (by omega) hOpen
      have hBefore := occurrences_before limit depth [] hOffset
      rw [matchFrom_of_closed _ _ _ hFirst hPost, Forest.regions_append, occurrencesAll_append,
        List.forall_mem_append] at hBefore
      refine ⟨outsideAll edited 0
        (ofBlock limit depth base block (matchBody limit depth base block)).regions ++ seen,
        fun body hBody => ?_⟩
      have hMore := hFirst.append_of_closed hPost ('{' :: (body ++ '}' :: right))
      rw [matchFrom_of_closed _ _ _ hMore rfl, ofBlock_post _ _ _ hPost, Forest.regions_append,
        outsideAll_append]
      exact congr (congrArg _ (outsideAll_of_before [] hBefore.1 _)) (hSeen body hBody)
  | unclosed left block hFirst hPost ihBody =>
      -- The body lies in the first block, which ends at the same place of `right` for every body.
      have hLength := hFirst.byteLength_of_unclosed hPost
      obtain ⟨inside, rest, hAroundBody⟩ := hFirst.exists_around hPost hMode right
      rw [hFirst.run_of_unclosed hPost] at hMode
      rw [hFirst.stackAfter_of_unclosed hPost] at hOpen
      have hOwn : base + block.openOffset ∈ edited.around := hOpen _ (by simp)
      obtain ⟨seenInner, hSeenInner⟩ := ihBody (depth + 1) (base + block.bodyOffset) inside hMode
        (by simp only [hOffset, hLength, Block.closeOffset]; omega)
        (fun o ho => hOpen o (List.mem_append_left _ ho))
      obtain ⟨seen, hSeen⟩ := exists_outsideAll_ofBlock hAround hOwn hMode limit depth inside rest
        (if limit ≤ depth + 1 then [] else seenInner)
      have hBlock (body : List Char) (hBody : Text.IsBody body) :
          outsideAll edited (Text.byteLength body) (ofBlock limit depth base
            ⟨block.pre, block.body ++ '{' :: (body ++ '}' :: inside), rest⟩
            (matchBody limit depth base
              ⟨block.pre, block.body ++ '{' :: (body ++ '}' :: inside), rest⟩)).regions = seen := by
        apply hSeen body hBody
        rw [matchBody]
        split
        · rw [Forest.regions_empty, outsideAll]
        · exact hSeenInner body hBody
      cases rest with
      | none =>
          refine ⟨seen, fun body hBody => ?_⟩
          rw [matchFrom_of_unclosed _ _ _ (hAroundBody body hBody) rfl, hBlock body hBody]
      | some post =>
          refine ⟨seen ++
            (matchFrom limit depth (edited.offset + 3 + Text.byteLength inside) post).regions,
            fun body hBody => ?_⟩
          have hPlace : base + (Block.mk block.pre (block.body ++ '{' :: (body ++ '}' :: inside))
              (some post)).closeOffset + 1 =
                edited.offset + 3 + Text.byteLength inside + Text.byteLength body := by
            have hSize : '{'.utf8Size = 1 ∧ '}'.utf8Size = 1 := by decide
            simp only [hOffset, hLength, Block.closeOffset, Block.bodyOffset, Block.openOffset,
              Text.byteLength_append, Text.byteLength_cons, hSize]
            omega
          rw [matchFrom_of_closed _ _ _ (hAroundBody body hBody) rfl, Forest.regions_append,
            outsideAll_append, hBlock body hBody, hPlace,
            outsideAll_matchFrom_behind hAround (by omega)]

end

/-- Replacing the body of one block leaves the forest as it was outside: every other region keeps its
header, its place in the nesting and its offset, moved by the difference in length behind the edit,
and every region but the edited one and the `field` regions around it keeps its properties. -/
theorem outsideAll_matchSource_edit (maxDepth : Nat) {before old new : List Char}
    (hBefore : (Mode.code.run before).readsCode = true) (hOld : Text.IsBody old)
    (hNew : Text.IsBody new) (after : List Char) :
    outsideAll (Nesting.openingBehind before) (Text.byteLength old)
        (matchSource maxDepth (before ++ '{' :: (old ++ '}' :: after))).regions =
      outsideAll (Nesting.openingBehind before) (Text.byteLength new)
        (matchSource maxDepth (before ++ '{' :: (new ++ '}' :: after))).regions := by
  have hAround : ∀ o ∈ (Nesting.openingBehind before).around,
      o < (Nesting.openingBehind before).offset := by
    intro o ho
    have hOrder := Brace.inOrder_ofText .code 0 before
    obtain ⟨hMem, -⟩ := (hOrder.mem_stackAfter_iff o).mp ho
    have hBounds := Brace.offset_bounds (hMem.resolve_left List.not_mem_nil)
    simpa [Brace.offset, Nesting.openingBehind] using hBounds.2
  obtain ⟨seen, hSeen⟩ := exists_outsideAll_matchFrom hAround (max 1 maxDepth) 0 0 before after
    hBefore (Nat.zero_add _).symm fun o ho => ho
  exact (hSeen old hOld).trans (hSeen new hNew).symm

/-- The block of `part` gets another body. The page around it is never closed, and the field around it
reads its own properties on both sides of the block. -/
theorem outsideAll_edit_in_unclosed_page :
    (Mode.code.run "page 1 P \x7b\nfield(a) \x7b\nC = 1;\npart(b) ".toList).readsCode = true ∧
      Text.IsBody "\nX = 1;\n".toList ∧ Text.IsBody "\nY = '\x7d';\narea(c) \x7b \x7d\n".toList ∧
      outsideAll ⟨37, [20, 9]⟩ 8
          (matchSource 9 ("page 1 P \x7b\nfield(a) \x7b\nC = 1;\npart(b) ".toList ++
            '{' :: ("\nX = 1;\n".toList ++ '}' :: "\nD = 2;\n\x7d\ne \x7b \x7d".toList))).regions =
        outsideAll ⟨37, [20, 9]⟩ 22
          (matchSource 9 ("page 1 P \x7b\nfield(a) \x7b\nC = 1;\npart(b) ".toList ++
            '{' :: ("\nY = '\x7d';\narea(c) \x7b \x7d\n".toList ++
              '}' :: "\nD = 2;\n\x7d\ne \x7b \x7d".toList))).regions := by
  have hBefore : (Mode.code.run
      "page 1 P \x7b\nfield(a) \x7b\nC = 1;\npart(b) ".toList).readsCode = true := by decide
  have hOld : Text.IsBody "\nX = 1;\n".toList := ⟨by decide, by decide⟩
  have hNew : Text.IsBody "\nY = '\x7d';\narea(c) \x7b \x7d\n".toList := ⟨by decide, by decide⟩
  exact ⟨hBefore, hOld, hNew,
    outsideAll_matchSource_edit 9 hBefore hOld hNew "\nD = 2;\n\x7d\ne \x7b \x7d".toList⟩

end Region
end ObjectOutline
