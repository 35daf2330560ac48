import ObjectOutline.Proofs.Brace.BlockNesting
import ObjectOutline.Region.Match

/-! Matching, one block at a time. A text is empty of blocks, or it starts with a closed block that
other blocks may follow, or with an unclosed block that takes in the rest. Every statement about a
match is proved along these three cases. -/
namespace ObjectOutline

namespace Forest

@[simp] theorem regions_append (first second : Forest) :
    (first ++ second).regions = first.regions ++ second.regions := rfl

@[simp] theorem regions_empty : Forest.empty.regions = [] := rfl

@[simp] theorem findings_append (first second : Forest) :
    (first ++ second).findings = first.findings ++ second.findings := rfl

@[simp] theorem findings_empty : Forest.empty.findings = [] := rfl

theorem ext {first second : Forest} (hRegions : first.regions = second.regions)
    (hFindings : first.findings = second.findings) : first = second := by
  cases first
  cases second
  exact congr (congrArg Forest.mk hRegions) hFindings

end Forest

namespace Region

variable {text post : List Char} {block : Block}

theorem matchFrom_of_none (limit depth base : Nat) (h : Block.find? text = none) :
    matchFrom limit depth base text = .empty := by
  rw [matchFrom]
  split
  · rfl
  · simp_all

/-- What is found in the body of a block: nothing at the limit, and else what matching the body by
itself gives. -/
def matchBody (limit depth base : Nat) (block : Block) : Forest :=
  if limit ≤ depth + 1 then .empty
  else matchFrom limit (depth + 1) (base + block.bodyOffset) block.body

theorem matchBody_eq (limit depth base : Nat) (block : Block) :
    (if reachesLimit limit depth block then .empty
      else matchFrom limit (depth + 1) (base + block.bodyOffset) block.body) =
        matchBody limit depth base block := by
  rw [matchBody, reachesLimit]
  cases hFind : Block.find? block.body with
  | none => simp [matchFrom_of_none _ _ _ hFind]
  | some nested => simp

/-- A closed block gives its own region and then those of the text behind it. -/
theorem matchFrom_of_closed (limit depth base : Nat) (h : Block.IsFirst text block)
    (hPost : block.post = some post) :
    matchFrom limit depth base text =
      ofBlock limit depth base block (matchBody limit depth base block) ++
        matchFrom limit depth (base + block.closeOffset + 1) post := by
  have hFind := (Block.find?_eq_some_iff text block).mpr h
  rw [matchFrom]
  split
  · simp_all
  · next found hFound =>
    obtain rfl : block = found := Option.some.inj (hFind.symm.trans hFound)
    simp only [matchBody_eq]
    split
    · simp_all
    · next found hFound =>
      obtain rfl : post = found := Option.some.inj (hPost.symm.trans hFound)
      simp only [Block.closeOffset, Nat.add_assoc]

/-- Nothing follows an unclosed block. -/
theorem matchFrom_of_unclosed (limit depth base : Nat) (h : Block.IsFirst text block)
    (hPost : block.post = none) :
    matchFrom limit depth base text =
      ofBlock limit depth base block (matchBody limit depth base block) := by
  have hFind := (Block.find?_eq_some_iff text block).mpr h
  rw [matchFrom]
  split
  · simp_all
  · next found hFound =>
    obtain rfl : block = found := Option.some.inj (hFind.symm.trans hFound)
    simp only [matchBody_eq]
    split
    · rfl
    · simp_all

/-- The region of a block, whether it is kept or not. -/
def ofBody (base : Nat) (block : Block) (inner : Forest) : Region :=
  let line := Text.lastFilledLine block.pre
  let header := Header.classify line
  { keyword := header.keyword
    id := header.id
    name := header.name
    objectType := header.objectType
    target := header.target
    source := String.ofList line
    offset := base + block.openOffset
    properties := Property.ofLines (propertyText header.keyword block)
    children := inner.regions }

/-- Only an unclosed block below the top level that holds no region is left out. -/
theorem regions_ofBlock (limit depth base : Nat) (block : Block) (inner : Forest) :
    (ofBlock limit depth base block inner).regions =
      if block.isClosed = false ∧ inner.regions = [] ∧ 0 < depth then []
      else [ofBody base block inner] := by
  have hCut : (!block.isClosed && inner.regions.isEmpty && decide (0 < depth)) = true ↔
      block.isClosed = false ∧ inner.regions = [] ∧ 0 < depth := by
    simp [and_assoc]
  simp only [ofBlock, ofBody]
  by_cases h : block.isClosed = false ∧ inner.regions = [] ∧ 0 < depth
  · rw [if_pos h, if_pos (hCut.mpr h)]
  · rw [if_neg h, if_neg (fun hTrue => h (hCut.mp hTrue))]

/-- What a block gives rise to by itself, apart from its body. -/
def ownIssues (limit depth : Nat) (block : Block) : List Issue :=
  let line := Text.lastFilledLine block.pre
  let header := Header.classify line
  (headerIssue? header line).toList ++
    (if block.isClosed then [] else [.neverClosed header.keyword]) ++
    (if reachesLimit limit depth block then [.nestedTooDeep header.keyword limit] else [])

/-- What follows a closed block does not matter to its region. -/
theorem ofBlock_post (limit depth base : Nat) (hPost : block.post = some post) (later : List Char)
    (inner : Forest) :
    ofBlock limit depth base { block with post := some later } inner =
      ofBlock limit depth base block inner := by
  cases block
  subst hPost
  rfl

/-- The findings of a block are its own, at its opening brace, and then those of its body. -/
theorem findings_ofBlock (limit depth base : Nat) (block : Block) (inner : Forest) :
    (ofBlock limit depth base block inner).findings =
      (ownIssues limit depth block).map (⟨base + block.openOffset, ·⟩) ++ inner.findings := rfl

end Region
end ObjectOutline
