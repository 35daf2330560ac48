import ObjectOutline.Proofs.Region.Occurrence

/-! Truncation: what is left of the regions of a source when its end is cut off. The regions whose
closing brace is still there are found again, each in its place and with all that is in it. Ancestors
that have lost their closing brace are still around them, because an unclosed block that holds a region
is kept. -/
namespace ObjectOutline

namespace Region

variable {limit depth base : Nat} {text : List Char} {block : Block} {stack : List Nat}

/-- Inside the first block of a text, apart from the region of the block, occur the regions of its
body. -/
theorem mem_occurrencesAll_matchFrom_iff (hFirst : Block.IsFirst text block) {x : Occurrence}
    (hOwn : x.region.offset ≠ base + block.openOffset)
    (hInside : x.region.offset < base + block.closeOffset) :
    x ∈ occurrencesAll stack (matchFrom limit depth base text).regions ↔
      x ∈ occurrencesAll ((base + block.openOffset) :: stack)
        (matchBody limit depth base block).regions := by
  have hBlock : x ∈ occurrencesAll stack
      (ofBlock limit depth base block (matchBody limit depth base block)).regions ↔
        x ∈ occurrencesAll ((base + block.openOffset) :: stack)
          (matchBody limit depth base block).regions :=
    ⟨fun h => (mem_occurrencesAll_ofBlock h).resolve_left hOwn, occurrencesAll_ofBlock_of_mem⟩
  cases hPost : block.post with
  | none => rw [matchFrom_of_unclosed _ _ _ hFirst hPost, hBlock]
  | some post =>
      rw [matchFrom_of_closed _ _ _ hFirst hPost, Forest.regions_append, occurrencesAll_append,
        List.mem_append, hBlock]
      refine or_iff_left fun hLater => ?_
      have hBounds := Brace.offset_bounds (opening_of_mem_occurrencesAll hLater)
      simp only [Brace.offset] at hBounds
      omega

theorem not_mem_occurrencesAll_of_lt {x : Occurrence} (h : x.region.offset < base) :
    x ∉ occurrencesAll stack (matchFrom limit depth base text).regions := by
  intro hMem
  have hBounds := Brace.offset_bounds (opening_of_mem_occurrencesAll hMem)
  simp only [Brace.offset] at hBounds
  omega

/-- A region whose opening brace is matched within `kept` occurs in `kept` exactly as it occurs in
`kept ++ cut`. -/
theorem mem_occurrencesAll_append_iff (limit depth base : Nat) (kept cut : List Char)
    (stack : List Nat) (hKeeps : Brace.Keeps stack (Brace.ofText .code base kept)) (x : Occurrence)
    {pair : Nat × Nat} (hPair : pair ∈ Brace.pairs stack (Brace.ofText .code base kept))
    (hx : pair.1 = x.region.offset) :
    x ∈ occurrencesAll stack (matchFrom limit depth base kept).regions ↔
      x ∈ occurrencesAll stack (matchFrom limit depth base (kept ++ cut)).regions := by
  induction kept using Block.induction generalizing depth base cut stack with
  | none kept hNone =>
      have hClosing := Brace.isOpening_of_mem_ofText base
        ((Block.find?_eq_none_iff kept).mp hNone)
      have hOpening := hClosing _ (hKeeps.opening_of_mem_pairs hPair)
      simp [Brace.isOpening] at hOpening
  | closed kept block post hFirst hPost ihBody ihPost =>
      have hMore := hFirst.append_of_closed hPost cut
      rw [matchFrom_of_closed _ _ _ hFirst hPost, matchFrom_of_closed _ _ _ hMore rfl,
        Forest.regions_append, Forest.regions_append, occurrencesAll_append, occurrencesAll_append,
        List.mem_append, List.mem_append, ofBlock_post _ _ _ hPost]
      refine or_congr Iff.rfl ?_
      have hInnerKeeps :=
        hFirst.keeps_body ((base + block.openOffset) :: stack) (base + block.bodyOffset)
      rw [hFirst.pairs_of_closed hPost hKeeps, List.mem_append, List.mem_cons] at hPair
      have hEarlier (h : pair.1 ≤ base + block.closeOffset) :
          x.region.offset < base + block.closeOffset + 1 := by
        omega
      rcases hPair with hInner | rfl | hLater
      · have hBefore := hEarlier (by
          have hBounds := hInnerKeeps.offset_bounds hInner
          simp only [Block.closeOffset]
          omega)
        exact iff_of_false (not_mem_occurrencesAll_of_lt hBefore)
          (not_mem_occurrencesAll_of_lt hBefore)
      · have hBefore := hEarlier (by
          simp only [Block.closeOffset, Block.bodyOffset]
          omega)
        exact iff_of_false (not_mem_occurrencesAll_of_lt hBefore)
          (not_mem_occurrencesAll_of_lt hBefore)
      · exact ihPost _ _ _ _ (hFirst.keeps_post hPost hKeeps) hLater
  | unclosed kept block hFirst hPost ihBody =>
      obtain ⟨inside, rest, hMore⟩ := hFirst.append_of_unclosed hPost cut
      have hInnerKeeps :=
        hFirst.keeps_body ((base + block.openOffset) :: stack) (base + block.bodyOffset)
      rw [hFirst.pairs_of_unclosed hPost hKeeps] at hPair
      have hBounds := hInnerKeeps.offset_bounds hPair
      simp only [Block.bodyOffset] at hBounds
      rw [mem_occurrencesAll_matchFrom_iff hFirst (by omega)
          (by simp only [Block.closeOffset, Block.bodyOffset]; omega),
        mem_occurrencesAll_matchFrom_iff hMore (by simp only [Block.openOffset] at hBounds ⊢; omega)
          (by
            simp only [Block.closeOffset, Block.bodyOffset, Block.openOffset,
              Text.byteLength_append] at hBounds ⊢
            omega)]
      unfold matchBody
      split
      · exact Iff.rfl
      · exact ihBody _ _ _ _ hInnerKeeps hPair

/-- The pairs of the beginning of a text are its pairs that are closed there. -/
theorem mem_pairs_append_iff (kept cut : List Char) (o c : Nat) :
    (o, c) ∈ Nesting.pairs kept ↔
      (o, c) ∈ Nesting.pairs (kept ++ cut) ∧ c < Text.byteLength kept := by
  have hBefore (h : (o, c) ∈ Nesting.pairs kept) : c < Text.byteLength kept := by
    have hBounds := Brace.offset_bounds (Brace.mem_of_mem_pairs h).2
    simpa [Brace.offset] using hBounds.2
  rw [Nesting.pairs, Nesting.pairs, Nesting.braces, Nesting.braces, Brace.ofText_append,
    Brace.pairs_append, List.mem_append]
  constructor
  · intro h
    exact ⟨Or.inl h, hBefore h⟩
  · rintro ⟨hKept | hCut, hLt⟩
    · exact hKept
    · have hBounds := Brace.offset_bounds (Brace.mem_of_mem_pairs hCut).2
      simp only [Brace.offset] at hBounds
      omega

/-- Cutting the end off a source keeps its closed regions: a region that is closed before the cut
occurs in one of the two sources exactly when it occurs in the other, at the same offset, under
ancestors with the same offsets, and with the same header, properties and nested regions. -/
theorem mem_occurrences_append_iff (maxDepth : Nat) (kept cut : List Char) (x : Occurrence) :
    (x ∈ occurrencesAll [] (matchSource maxDepth kept).regions ∧
        ∃ c, (x.region.offset, c) ∈ Nesting.pairs kept) ↔
      (x ∈ occurrencesAll [] (matchSource maxDepth (kept ++ cut)).regions ∧
        ∃ c, (x.region.offset, c) ∈ Nesting.pairs (kept ++ cut) ∧ c < Text.byteLength kept) := by
  simp only [← mem_pairs_append_iff]
  refine and_congr_left ?_
  rintro ⟨c, hPair⟩
  exact mem_occurrencesAll_append_iff _ _ _ _ _ _ (Brace.keeps_nil _) x hPair rfl

end Region
end ObjectOutline
