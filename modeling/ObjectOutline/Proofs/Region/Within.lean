import ObjectOutline.Proofs.Symbol.Controls

/-! Blocks within blocks, and their regions. A block is reached from a text by going along the blocks that
stand beside each other, into the body of one of them, and so on. Every region is that of such a block, and
the block has its region unless it lies below the limit or the source was cut off inside it. -/
namespace ObjectOutline

namespace Block

/-- The line in front of the block that says what the block is. -/
def headerLine (block : Block) : List Char :=
  Text.lastFilledLine block.pre

def header (block : Block) : Header :=
  Header.classify block.headerLine

/-- The block is one of those beside each other at the top level of the text. -/
inductive Beside : List Char → Block → Prop
  | first {text : List Char} {block : Block} (hFirst : IsFirst text block) : Beside text block
  | later {text post : List Char} {first block : Block} (hFirst : IsFirst text first)
      (hPost : first.post = some post) (hBlock : Beside post block) : Beside text block

/-- The block stands in the text, inside the blocks of a path: the first of them is one of those of the text,
the next one of those of its body, and so on. -/
inductive Within : List Char → List Block → Block → Prop
  | here {text : List Char} {block : Block} (hBlock : Beside text block) : Within text [] block
  | inside {text : List Char} {outer block : Block} {path : List Block} (hOuter : Beside text outer)
      (hBlock : Within outer.body path block) : Within text (outer :: path) block

/-- The source was not cut off inside the block before anything in it was complete: the block is closed, or a
closed block stands in it, within so many levels. -/
def Survives (levels : Nat) (block : Block) : Prop :=
  block.isClosed = true ∨
    ∃ path closed, Within block.body path closed ∧ closed.isClosed = true ∧ path.length < levels

end Block

namespace Region

theorem preorderAll_append (first second : List Region) :
    preorderAll (first ++ second) = preorderAll first ++ preorderAll second := by
  rw [preorderAll, occurrencesAll_append, List.map_append, preorderAll, preorderAll]

theorem ne_nil_of_mem_preorderAll {regions : List Region} {region : Region}
    (h : region ∈ preorderAll regions) : regions ≠ [] := by
  rintro rfl
  cases h

theorem mem_preorderAll_of_mem {regions : List Region} {region : Region} (h : region ∈ regions) :
    region ∈ preorderAll regions := by
  obtain ⟨before, behind, rfl⟩ := List.append_of_mem h
  rw [preorderAll_append, preorderAll_cons]
  simp

/-- What is in one of the regions is in all of them. -/
theorem mem_preorderAll_of_children {regions : List Region} {outer region : Region}
    (hOuter : outer ∈ regions) (h : region ∈ preorderAll outer.children) :
    region ∈ preorderAll regions := by
  obtain ⟨before, behind, rfl⟩ := List.append_of_mem hOuter
  rw [preorderAll_append, preorderAll_cons]
  simp [h]

/-- The region is that of some block. -/
def IsOfBlock (region : Region) : Prop :=
  ∃ base block inner, region = ofBody base block inner

theorem isOfBlock_of_mem_matchFrom {limit depth base : Nat} {text : List Char} {region : Region}
    (h : region ∈ preorderAll (matchFrom limit depth base text).regions) : region.IsOfBlock := by
  have hBlock {depth base : Nat} {block : Block}
      (hBody : ∀ depth base, region ∈ preorderAll (matchFrom limit depth base block.body).regions →
        region.IsOfBlock)
      (hRegion : region ∈
        preorderAll (ofBlock limit depth base block (matchBody limit depth base block)).regions) :
      region.IsOfBlock := by
    rw [regions_ofBlock] at hRegion
    split at hRegion
    · cases hRegion
    · rw [preorderAll_cons, List.mem_append, List.mem_cons] at hRegion
      rcases hRegion with (rfl | hInner) | hNone
      · exact ⟨base, block, _, rfl⟩
      · rw [ofBody, matchBody] at hInner
        split at hInner
        · cases hInner
        · exact hBody _ _ hInner
      · cases hNone
  induction text using Block.induction generalizing depth base with
  | none text hNone =>
      rw [matchFrom_of_none _ _ _ hNone] at h
      cases h
  | closed text block post hFirst hPost ihBody ihPost =>
      rw [matchFrom_of_closed _ _ _ hFirst hPost, Forest.regions_append, preorderAll_append,
        List.mem_append] at h
      exact h.elim (hBlock fun _ _ => ihBody) ihPost
  | unclosed text block hFirst hPost ihBody =>
      rw [matchFrom_of_unclosed _ _ _ hFirst hPost] at h
      exact hBlock (fun _ _ => ihBody) h

theorem isOfBlock_of_mem_matchBody {limit depth base : Nat} {block : Block} {region : Region}
    (h : region ∈ preorderAll (matchBody limit depth base block).regions) : region.IsOfBlock := by
  rw [matchBody] at h
  split at h
  · cases h
  · exact isOfBlock_of_mem_matchFrom h

section

variable {text : List Char} {block : Block} {limit depth : Nat}

/-- The region of one of the blocks beside each other, if it is kept. -/
theorem exists_region_of_beside (h : Block.Beside text block) (base : Nat)
    (hKept : block.isClosed = true ∨ ∀ base, (matchBody limit depth base block).regions ≠ []) :
    ∃ base', ofBody base' block (matchBody limit depth base' block) ∈
      (matchFrom limit depth base text).regions := by
  induction h generalizing base with
  | @first text block hFirst =>
      have hBlock : ¬(block.isClosed = false ∧ (matchBody limit depth base block).regions = [] ∧
          0 < depth) := by
        rintro ⟨hUnclosed, hNone, -⟩
        rcases hKept with hClosed | hFilled
        · rw [hClosed] at hUnclosed
          cases hUnclosed
        · exact hFilled base hNone
      refine ⟨base, ?_⟩
      cases hPost : block.post with
      | none =>
          rw [matchFrom_of_unclosed _ _ _ hFirst hPost, regions_ofBlock, if_neg hBlock]
          exact List.mem_singleton_self _
      | some post =>
          rw [matchFrom_of_closed _ _ _ hFirst hPost, Forest.regions_append, regions_ofBlock,
            if_neg hBlock]
          exact List.mem_cons_self
  | @later text post first block hFirst hPost hBlock ih =>
      obtain ⟨base', hRegion⟩ := ih (base + first.closeOffset + 1) hKept
      refine ⟨base', ?_⟩
      rw [matchFrom_of_closed _ _ _ hFirst hPost, Forest.regions_append]
      exact List.mem_append_right _ hRegion

theorem matchBody_of_lt (h : depth + 1 < limit) (base : Nat) (block : Block) :
    matchBody limit depth base block =
      matchFrom limit (depth + 1) (base + block.bodyOffset) block.body := by
  rw [matchBody, if_neg (Nat.not_le.mpr h)]

/-- A block at whatever level above the limit has its region, if it is kept; what is around it is kept for
its sake. -/
theorem exists_region_of_within {path : List Block} (h : Block.Within text path block) (base : Nat)
    (hLimit : depth + path.length < limit)
    (hKept : block.isClosed = true ∨
      ∀ base, (matchBody limit (depth + path.length) base block).regions ≠ []) :
    ∃ base', ofBody base' block (matchBody limit (depth + path.length) base' block) ∈
      preorderAll (matchFrom limit depth base text).regions := by
  induction h generalizing depth base with
  | here hBlock =>
      obtain ⟨base', hRegion⟩ := exists_region_of_beside hBlock base hKept
      exact ⟨base', mem_preorderAll_of_mem hRegion⟩
  | @inside text outer block path hOuter hBlock ih =>
      have hLength : depth + (outer :: path).length = depth + 1 + path.length := by
        rw [List.length_cons, Nat.add_assoc, Nat.add_comm 1]
      rw [hLength] at hLimit hKept ⊢
      have hBody (base : Nat) := matchBody_of_lt (show depth + 1 < limit by omega) base outer
      have hInner (base : Nat) := ih (base + outer.bodyOffset) hLimit hKept
      have hFilled (base : Nat) : (matchBody limit depth base outer).regions ≠ [] := by
        obtain ⟨base', hRegion⟩ := hInner base
        rw [hBody]
        exact ne_nil_of_mem_preorderAll hRegion
      obtain ⟨baseOuter, hRegionOuter⟩ := exists_region_of_beside hOuter base (Or.inr hFilled)
      obtain ⟨base', hRegion⟩ := hInner baseOuter
      refine ⟨base', mem_preorderAll_of_children hRegionOuter ?_⟩
      rw [ofBody, hBody]
      exact hRegion

/-- A block that survives is kept. -/
theorem kept_of_survives {levels : Nat} (h : block.Survives levels)
    (hLimit : depth + 1 + levels ≤ limit) :
    block.isClosed = true ∨ ∀ base, (matchBody limit depth base block).regions ≠ [] := by
  refine h.imp_right ?_
  rintro ⟨path, closed, hClosed, hPost, hPath⟩ base
  obtain ⟨base', hRegion⟩ := exists_region_of_within hClosed (base + block.bodyOffset)
    (show depth + 1 + path.length < limit by omega) (Or.inl hPost)
  rw [matchBody_of_lt (by omega)]
  exact ne_nil_of_mem_preorderAll hRegion

end

end Region
end ObjectOutline
