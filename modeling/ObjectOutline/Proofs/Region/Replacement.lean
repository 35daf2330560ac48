import ObjectOutline.Proofs.Brace.Passed
import ObjectOutline.Proofs.Symbol.Sources

/-! Replacing a piece of a source that is passed over. The regions stay what they are, apart from their
places and the header lines as written, when the new piece is passed over as well and two things are read
alike: the properties of the blocks around the piece, and the header of the block that opens behind it. -/
namespace ObjectOutline

namespace Block

/-- The properties that the region of the block has. -/
def ownProperties (block : Block) : List Property :=
  Property.ofLines
    (Region.propertyText (Header.classify (Text.lastFilledLine block.pre)).keyword block)

/-- What follows a closed block has no part in it. -/
theorem ownProperties_post (block : Block) (hClosed : block.isClosed = true) (rest : List Char) :
    { block with post := some rest }.ownProperties = block.ownProperties := by
  obtain ⟨pre, body, post⟩ := block
  cases post with
  | none => cases hClosed
  | some post => rfl

/-- More text does not change where the first block starts. -/
theorem exists_find?_append {before : List Char} {block : Block} (h : find? before = some block)
    (more : List Char) : ∃ longer, find? (before ++ more) = some longer ∧ longer.pre = block.pre := by
  have hFirst := (find?_eq_some_iff before block).mp h
  cases hPost : block.post with
  | none =>
      obtain ⟨inside, rest, hMore⟩ := hFirst.append_of_unclosed hPost more
      exact ⟨_, (find?_eq_some_iff _ _).mpr hMore, rfl⟩
  | some post =>
      exact ⟨_, (find?_eq_some_iff _ _).mpr (hFirst.append_of_closed hPost more), rfl⟩

end Block

/-- Between the two texts, `first` and `second` are read alike: every block that is left open in front of
them has the same properties with either piece, and the block that opens next behind them has the same
header. When a block is closed before that, its brace ends the text that the header is looked for in, so
nothing is asked of the pieces. -/
structure Text.ReadAlike (before first second after : List Char) : Prop where
  properties : ∀ block ∈ (Block.surroundings before).blocks,
    (Block.find? (block.text ++ (first ++ after))).map Block.ownProperties =
      (Block.find? (block.text ++ (second ++ after))).map Block.ownProperties
  headers : ∀ next ∈ Block.find? after,
    Brace.ofText .code 0 next.pre = [] ∨ (Block.surroundings before).blocks = [] →
      Header.classify (lastFilledLine ((Block.surroundings before).gap ++ (first ++ next.pre))) =
        Header.classify (lastFilledLine ((Block.surroundings before).gap ++ (second ++ next.pre)))

namespace Text

variable {before first second piece after post inside : List Char} {block : Block} {depth : Nat}
  {rest : Option (List Char)}

/-- Inside an unclosed block, the blocks around a piece have the properties that they have in the whole
text: what follows the closing brace of the outer block lies behind them. -/
theorem map_ownProperties_inside (hBlock : Block.IsFirst before block) (hPost : block.post = none)
    (hDepth : Brace.depthAfter 0 (Brace.ofText .code 0 block.body) = some depth)
    (hInside : Block.IsInside depth after inside rest) (hPiece : Passed before piece after)
    {nested : Block} (hNested : nested ∈ (Block.surroundings block.body).blocks) :
    (Block.find? (nested.text ++ (piece ++ after))).map Block.ownProperties =
      (Block.find? (nested.text ++ (piece ++ inside))).map Block.ownProperties := by
  rcases hInside.text_eq with ⟨rfl, -⟩ | ⟨post, rfl, rfl⟩
  · rfl
  · have hWhole := (Block.find?_eq_some_iff _ _).mp (hBlock.find?_of_passed hPost hDepth hInside hPiece)
    obtain ⟨longer, hFind, hClosed⟩ :=
      Block.isClosed_of_mem_surroundings (hWhole.bodyBraces rfl) hNested
    obtain ⟨behind, hMore⟩ := Block.find?_append_of_isClosed hFind hClosed ('}' :: post)
    simp only [List.append_assoc] at hMore
    rw [hFind, hMore, Option.map_some, Option.map_some, longer.ownProperties_post hClosed]

namespace ReadAlike

/-- The pieces are read alike behind a closed block when they are in the whole text. -/
theorem of_closed (h : ReadAlike before first second after) (hBlock : Block.IsFirst before block)
    (hPost : block.post = some post) : ReadAlike post first second after := by
  obtain ⟨hProperties, hHeaders⟩ := h
  rw [hBlock.surroundings_of_closed hPost] at hProperties hHeaders
  exact ⟨hProperties, hHeaders⟩

/-- They are read alike in the body of an unclosed block when they are in the whole text. -/
theorem of_unclosed (h : ReadAlike before first second after) (hBlock : Block.IsFirst before block)
    (hPost : block.post = none)
    (hDepth : Brace.depthAfter 0 (Brace.ofText .code 0 block.body) = some depth)
    (hInside : Block.IsInside depth after inside rest) (hFirst : Passed before first after)
    (hSecond : Passed before second after) : ReadAlike block.body first second inside := by
  obtain ⟨hProperties, hHeaders⟩ := h
  rw [hBlock.surroundings_of_unclosed hPost] at hProperties hHeaders
  refine ⟨fun nested hNested => ?_, fun next hNext hNearest => ?_⟩
  · rw [← map_ownProperties_inside hBlock hPost hDepth hInside hFirst hNested,
      ← map_ownProperties_inside hBlock hPost hDepth hInside hSecond hNested]
    exact hProperties nested (List.mem_cons_of_mem _ hNested)
  · obtain ⟨longer, hLonger, hPre⟩ :
        ∃ longer, Block.find? after = some longer ∧ longer.pre = next.pre := by
      rcases hInside.text_eq with ⟨rfl, -⟩ | ⟨post, rfl, -⟩
      · exact ⟨next, hNext, rfl⟩
      · exact Block.exists_find?_append hNext _
    -- In a body that leaves nothing open, nothing can be closed before the next block opens: it would
    -- be the end of the body.
    have hBraces : Brace.ofText .code 0 next.pre = [] := by
      rcases hNearest with hBraces | hNil
      · exact hBraces
      · obtain rfl := Block.eq_zero_of_surroundings_blocks hDepth hNil
        exact hInside.braces_pre hNext
    have hHeader := hHeaders longer hLonger (Or.inl (by rw [hPre, hBraces]))
    rwa [hPre] at hHeader

end ReadAlike
end Text

namespace Region

/-- The two texts have the same regions at that depth, wherever they stand. -/
def Alike (limit depth : Nat) (first second : List Char) : Prop :=
  ∀ base base', withoutSourceAll (matchFrom limit depth base first).regions =
    withoutSourceAll (matchFrom limit depth base' second).regions

theorem alike_refl (limit depth : Nat) (text : List Char) : Alike limit depth text text := by
  have hStart (base : Nat) : withoutSourceAll (matchFrom limit depth base text).regions =
      withoutSourceAll (matchFrom limit depth 0 text).regions := by
    rw [← Nat.zero_add base, matchFrom_add, Forest.regions_moved, withoutSourceAll_movedAll]
  intro base base'
  rw [hStart base, hStart base']

/-- Both blocks are closed or both are not, and they have the same header and the same properties. -/
structure SameHead (block block' : Block) : Prop where
  isClosed : block.isClosed = block'.isClosed
  header : Header.classify (Text.lastFilledLine block.pre) =
    Header.classify (Text.lastFilledLine block'.pre)
  properties : block.ownProperties = block'.ownProperties

/-- A block with another text in front of it, but with the same header, has the same properties. -/
theorem sameHead_of_header (block : Block) {pre pre' : List Char}
    (h : Header.classify (Text.lastFilledLine pre) = Header.classify (Text.lastFilledLine pre')) :
    SameHead { block with pre := pre } { block with pre := pre' } where
  isClosed := rfl
  header := h
  properties := by
    rw [Block.ownProperties, Block.ownProperties, h]
    rfl

variable {limit depth : Nat} {block block' : Block}

theorem withoutSourceAll_ofBlock (h : SameHead block block') (base base' : Nat)
    {inner inner' : Forest}
    (hInner : withoutSourceAll inner.regions = withoutSourceAll inner'.regions) :
    withoutSourceAll (ofBlock limit depth base block inner).regions =
      withoutSourceAll (ofBlock limit depth base' block' inner').regions := by
  have hEmpty : inner.regions = [] ↔ inner'.regions = [] := by
    rw [← withoutSourceAll_eq_nil_iff, hInner, withoutSourceAll_eq_nil_iff]
  have hRegion : withoutSource (ofBody base block inner) =
      withoutSource (ofBody base' block' inner') := by
    have hProperties := h.properties
    rw [Block.ownProperties, Block.ownProperties, h.header] at hProperties
    simp only [withoutSource_eq, ofBody, h.header, hProperties, hInner]
  simp only [regions_ofBlock, h.isClosed, hEmpty]
  split
  · rfl
  · simp only [withoutSourceAll_eq_map, List.map_singleton, hRegion]

/-- Texts whose first blocks are alike, in front, inside and behind, have the same regions. -/
theorem Alike.of_find? {first second : List Char} (hFirst : Block.find? first = some block)
    (hSecond : Block.find? second = some block') (hHead : SameHead block block')
    (hBody : Alike limit (depth + 1) block.body block'.body)
    (hPost : Option.Rel (Alike limit depth) block.post block'.post) :
    Alike limit depth first second := by
  have hIsFirst := (Block.find?_eq_some_iff first block).mp hFirst
  have hIsSecond := (Block.find?_eq_some_iff second block').mp hSecond
  intro base base'
  have hInner : withoutSourceAll (matchBody limit depth base block).regions =
      withoutSourceAll (matchBody limit depth base' block').regions := by
    rw [matchBody, matchBody]
    split
    · rfl
    · exact hBody _ _
  have hBlock : withoutSourceAll
      (ofBlock limit depth base block (matchBody limit depth base block)).regions =
        withoutSourceAll
          (ofBlock limit depth base' block' (matchBody limit depth base' block')).regions :=
    withoutSourceAll_ofBlock hHead base base' hInner
  generalize hRest : block.post = rest at hPost
  generalize hRest' : block'.post = rest' at hPost
  cases hPost with
  | none =>
      rw [matchFrom_of_unclosed _ _ _ hIsFirst hRest, matchFrom_of_unclosed _ _ _ hIsSecond hRest',
        hBlock]
  | some hLater =>
      rw [matchFrom_of_closed _ _ _ hIsFirst hRest, matchFrom_of_closed _ _ _ hIsSecond hRest',
        Forest.regions_append, Forest.regions_append, withoutSourceAll_append,
        withoutSourceAll_append, hBlock, hLater]

variable {before first second after : List Char}

/-- Replacing a piece that is passed over by one that is read alike does not change the regions. -/
theorem alike_of_passed (h : Text.ReadAlike before first second after)
    (hFirst : Text.Passed before first after) (hSecond : Text.Passed before second after) :
    Alike limit depth (before ++ (first ++ after)) (before ++ (second ++ after)) := by
  induction before using Block.induction generalizing depth after with
  | none before hNone =>
      have hFindFirst := Block.find?_of_passed hNone hFirst
      have hFindSecond := Block.find?_of_passed hNone hSecond
      cases hAfter : Block.find? after with
      | none =>
          rw [hAfter] at hFindFirst hFindSecond
          intro base base'
          rw [matchFrom_of_none _ _ _ hFindFirst, matchFrom_of_none _ _ _ hFindSecond]
      | some next =>
          rw [hAfter] at hFindFirst hFindSecond
          have hHeader := h.headers next hAfter
          rw [Block.surroundings_of_none hNone] at hHeader
          have hHead := sameHead_of_header next (hHeader (Or.inr rfl))
          refine Alike.of_find? hFindFirst hFindSecond hHead (alike_refl _ _ _) ?_
          cases next.post with
          | none => exact .none
          | some post => exact .some (alike_refl _ _ _)
  | closed before block post hBlock hPost ihBody ihPost =>
      have hMore (piece : List Char) := (Block.find?_eq_some_iff _ _).mpr
        (hBlock.append_of_closed hPost (piece ++ after))
      have hLater : Alike limit depth (post ++ (first ++ after)) (post ++ (second ++ after)) :=
        ihPost (h.of_closed hBlock hPost) (hBlock.passed_post hPost hFirst)
          (hBlock.passed_post hPost hSecond)
      exact Alike.of_find? (hMore first) (hMore second) ⟨rfl, rfl, rfl⟩ (alike_refl _ _ _)
        (.some hLater)
  | unclosed before block hBlock hPost ihBody =>
      obtain ⟨nesting, hDepth⟩ := Option.isSome_iff_exists.mp hBlock.openBraces
      obtain ⟨inside, rest, hInside⟩ := Block.exists_isInside nesting after
      have hFindFirst := hBlock.find?_of_passed hPost hDepth hInside hFirst
      have hFindSecond := hBlock.find?_of_passed hPost hDepth hInside hSecond
      have hOutermost : block ∈ (Block.surroundings before).blocks := by
        rw [hBlock.surroundings_of_unclosed hPost]
        exact List.mem_cons_self
      have hProperties := h.properties block hOutermost
      rw [hBlock.text_eq, hFindFirst, hFindSecond] at hProperties
      have hBody : Alike limit (depth + 1) (block.body ++ (first ++ inside))
          (block.body ++ (second ++ inside)) :=
        ihBody (h.of_unclosed hBlock hPost hDepth hInside hFirst hSecond)
          (hBlock.passed_body hPost hInside hFirst) (hBlock.passed_body hPost hInside hSecond)
      refine Alike.of_find? hFindFirst hFindSecond ⟨rfl, rfl, Option.some.inj hProperties⟩ hBody ?_
      cases rest with
      | none => exact .none
      | some post => exact .some (alike_refl _ _ _)

end Region
end ObjectOutline
