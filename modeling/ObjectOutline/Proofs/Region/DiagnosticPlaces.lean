import ObjectOutline.Proofs.Region.Findings
import ObjectOutline.Proofs.Region.Within
import ObjectOutline.Proofs.Text.Boundary

/-! Where diagnostics point. Matching takes a text apart, block by block, and counts offsets on from the start
of the part that it reads. `Block.At` says which block it comes to at which offset; at that offset of the
whole text stands the brace that opens the block. A diagnostic about the block has the position of this brace,
so a reader who goes to its line and column finds it there, and no two diagnostics of a kind meet. -/
namespace ObjectOutline

/-- The character at a position: in the line of its number, behind as many characters as its column says. -/
def Position.charAt? (text : List Char) (position : Position) : Option Char :=
  ((Text.lines text)[position.line]?).bind (·[position.column]?)

theorem Position.charAt?_behind (before : List Char) {c : Char} (h : c ≠ '\n') (after : List Char) :
    (behind before).charAt? (before ++ c :: after) = some c := by
  induction before using Text.lines_induction with
  | last line hLine =>
      have hTake : (c :: after).takeWhile (· != '\n') = c :: after.takeWhile (· != '\n') :=
        List.takeWhile_cons_of_pos (by simpa using h)
      rw [charAt?, behind_of_not_mem hLine, Text.getElem?_lines_zero hLine, hTake, Option.bind_some,
        List.getElem?_append_right (Nat.le_refl _), Nat.sub_self]
      rfl
  | line line rest hLine ih =>
      rw [charAt?] at ih
      rw [charAt?, behind_line hLine, List.append_assoc, List.cons_append, Text.lines_line hLine, down,
        List.getElem?_cons_succ, ih]

namespace Block

/-- Reading a text that starts at `base`, matching comes to the block at an offset, so many levels deep. It
comes to the first block, from there into the body, and from a closed block on to the text behind it. -/
inductive At : Nat → List Char → Nat → Nat → Block → Prop
  | first {base : Nat} {text : List Char} {block : Block} (hFirst : IsFirst text block) :
      At base text (base + block.openOffset) 0 block
  | inside {base offset depth : Nat} {text : List Char} {outer block : Block} (hFirst : IsFirst text outer)
      (hBlock : At (base + outer.bodyOffset) outer.body offset depth block) :
      At base text offset (depth + 1) block
  | behind {base offset depth : Nat} {text post : List Char} {first block : Block}
      (hFirst : IsFirst text first) (hPost : first.post = some post)
      (hBlock : At (base + first.closeOffset + 1) post offset depth block) : At base text offset depth block

/-- A brace of code at the offset opens the block: the header of the block is in front of it, the body is
behind it, and behind the body is the closing brace, or the end of the text if there is none. -/
def OpensAt (block : Block) (text : List Char) (offset : Nat) : Prop :=
  ∃ before rest, text = before ++ '{' :: joinClose (block.body, rest) ∧ Text.byteLength before = offset ∧
    (Mode.code.run before).readsCode = true ∧ block.pre <:+ before ∧ rest.isSome = block.isClosed

variable {text : List Char} {block : Block} {base offset depth : Nat}

/-- What is not closed in a part of a text is open at its end. -/
theorem At.mem_stackAfter (h : At base text offset depth block) (hUnclosed : block.post = none) :
    offset ∈ Brace.stackAfter [] (Brace.ofText .code base text) := by
  induction h with
  | first hFirst =>
      rw [hFirst.stackAfter_of_unclosed hUnclosed]
      simp
  | @inside base offset depth text outer block hFirst hBlock ih =>
      cases hPost : outer.post with
      | none =>
          rw [hFirst.stackAfter_of_unclosed hPost]
          simp [ih hUnclosed]
      | some post =>
          have hOpen := ih hUnclosed
          rw [Brace.stackAfter_of_balanced (hFirst.depthAfter_body hPost _)] at hOpen
          cases hOpen
  | behind hFirst hPost hBlock ih =>
      rw [hFirst.stackAfter_of_closed hPost]
      exact ih hUnclosed

/-- Inside a closed block all blocks are closed. -/
theorem At.isClosed_of_closed {outer : Block} (hFirst : IsFirst text outer) {post : List Char}
    (hPost : outer.post = some post) (h : At base outer.body offset depth block) :
    block.isClosed = true := by
  by_contra hUnclosed
  have hOpen := h.mem_stackAfter (by simpa [isClosed] using hUnclosed)
  rw [Brace.stackAfter_of_balanced (hFirst.depthAfter_body hPost _)] at hOpen
  cases hOpen

/-- More text behind a closed block does not change where it opens. -/
theorem OpensAt.append_of_isClosed (h : block.OpensAt text offset) (hClosed : block.isClosed = true)
    (more : List Char) : block.OpensAt (text ++ more) offset := by
  obtain ⟨before, rest, rfl, hOffset, hCode, hPre, hRest⟩ := h
  obtain ⟨post, rfl⟩ := Option.isSome_iff_exists.mp (hRest.trans hClosed)
  refine ⟨before, some (post ++ more), ?_, hOffset, hCode, hPre, by rw [hClosed]; rfl⟩
  simp [joinClose]

/-- Text in front of a part moves where its blocks open, if the part is read as code from its start. -/
theorem OpensAt.append_left (h : block.OpensAt text offset) {front : List Char}
    (hFront : Mode.code.run front = .code) :
    block.OpensAt (front ++ text) (Text.byteLength front + offset) := by
  obtain ⟨before, rest, rfl, rfl, hCode, hPre, hRest⟩ := h
  refine ⟨front ++ before, rest, by simp, by simp, ?_, hPre.trans (List.suffix_append _ _), hRest⟩
  rw [Mode.run_append, hFront]
  exact hCode

theorem IsFirst.opensAt (h : IsFirst text block) : block.OpensAt text block.openOffset := by
  refine ⟨block.pre, block.post, ?_, rfl, h.preMode, List.suffix_refl _, rfl⟩
  cases hPost : block.post with
  | none => exact h.eq_of_unclosed hPost
  | some post => simpa [joinClose] using h.eq_of_closed hPost

/-- Offsets are counted right: where matching comes to a block, the block opens. -/
theorem At.exists_opensAt (h : At base text offset depth block) :
    ∃ o, offset = base + o ∧ block.OpensAt text o := by
  induction h with
  | first hFirst => exact ⟨_, rfl, hFirst.opensAt⟩
  | @inside base offset depth text outer block hFirst hBlock ih =>
      obtain ⟨o, rfl, hOpens⟩ := ih
      have hSize : '{'.utf8Size = 1 := by decide
      have hFront : Mode.code.run (outer.pre ++ ['{']) = .code := by
        rw [Mode.run_append, Mode.run_cons, Mode.run_nil,
          Mode.step_of_opens (Mode.opens_iff.mpr ⟨hFirst.preMode, rfl⟩)]
      have hLength : Text.byteLength (outer.pre ++ ['{']) = outer.bodyOffset := by
        simp [bodyOffset, openOffset, hSize]
      have hPart := hOpens.append_left hFront
      rw [hLength] at hPart
      refine ⟨outer.bodyOffset + o, by omega, ?_⟩
      cases hPost : outer.post with
      | none =>
          have hText : text = outer.pre ++ ['{'] ++ outer.body := by
            rw [hFirst.eq_of_unclosed hPost, ← List.append_cons]
          rwa [hText]
      | some post =>
          have hText : text = outer.pre ++ ['{'] ++ outer.body ++ '}' :: post := by
            rw [hFirst.eq_of_closed hPost, ← List.append_cons]
          rw [hText]
          exact hPart.append_of_isClosed (hBlock.isClosed_of_closed hFirst hPost) _
  | @behind base offset depth text post first block hFirst hPost hBlock ih =>
      obtain ⟨o, rfl, hOpens⟩ := ih
      have hClosed := isClosed_of_post hPost
      have hShort := isFirst_of_balanced hFirst.preMode hFirst.preBraces (hFirst.bodyMode hClosed)
        (hFirst.bodyBraces hClosed) []
      have hLength : Text.byteLength (first.pre ++ '{' :: first.body ++ ['}']) = first.closeOffset + 1 := by
        rw [hShort.byteLength_of_closed rfl, Text.byteLength_nil, Nat.add_zero]
        rfl
      have hPart := hOpens.append_left (hShort.run_of_closed rfl)
      have hText := hFirst.eq_of_closed hPost
      rw [hLength] at hPart
      rw [List.append_cons] at hText
      rw [hText]
      exact ⟨first.closeOffset + 1 + o, by omega, hPart⟩

end Block

/-- The first of two findings stands further up, or they stand at one brace and report different codes. -/
def Finding.Precedes (first second : Finding) : Prop :=
  first.offset < second.offset ∨ first.offset = second.offset ∧ first.issue.code ≠ second.issue.code

namespace Region

variable {text : List Char} {limit depth base : Nat}

/-- Every finding is about a block that matching comes to. -/
theorem exists_at_of_mem_findings {finding : Finding}
    (h : finding ∈ (matchFrom limit depth base text).findings) :
    ∃ inner block, Block.At base text finding.offset inner block ∧
      finding.issue ∈ ownIssues limit (depth + inner) block := by
  have hBlock {limit depth base : Nat} {text : List Char} {block : Block} (hFirst : Block.IsFirst text block)
      (hBody : ∀ {depth base : Nat}, finding ∈ (matchFrom limit depth base block.body).findings →
        ∃ inner nested, Block.At base block.body finding.offset inner nested ∧
          finding.issue ∈ ownIssues limit (depth + inner) nested)
      (h : finding ∈ (ofBlock limit depth base block (matchBody limit depth base block)).findings) :
      ∃ inner nested, Block.At base text finding.offset inner nested ∧
        finding.issue ∈ ownIssues limit (depth + inner) nested := by
    rw [findings_ofBlock, List.mem_append, List.mem_map] at h
    rcases h with ⟨issue, hIssue, rfl⟩ | hInner
    · exact ⟨0, block, .first hFirst, hIssue⟩
    · rw [matchBody] at hInner
      split at hInner
      · cases hInner
      · obtain ⟨inner, nested, hAt, hIssue⟩ := hBody hInner
        exact ⟨inner + 1, nested, .inside hFirst hAt, by rwa [Nat.add_comm inner, ← Nat.add_assoc]⟩
  induction text using Block.induction generalizing depth base with
  | none text hNone =>
      rw [matchFrom_of_none _ _ _ hNone] at h
      cases h
  | closed text block post hFirst hPost ihBody ihPost =>
      rw [matchFrom_of_closed _ _ _ hFirst hPost, Forest.findings_append, List.mem_append] at h
      rcases h with hOwn | hLater
      · exact hBlock hFirst ihBody hOwn
      · obtain ⟨inner, nested, hAt, hIssue⟩ := ihPost hLater
        exact ⟨inner, nested, .behind hFirst hPost hAt, hIssue⟩
  | unclosed text block hFirst hPost ihBody =>
      rw [matchFrom_of_unclosed _ _ _ hFirst hPost] at h
      exact hBlock hFirst ihBody h

/-- Every region is that of a block that matching comes to, and has its offset. -/
theorem exists_at_of_mem_preorderAll {region : Region}
    (h : region ∈ preorderAll (matchFrom limit depth base text).regions) :
    ∃ inner start block forest, Block.At base text region.offset inner block ∧
      region = ofBody start block forest := by
  have hBlock {limit depth base : Nat} {text : List Char} {block : Block} (hFirst : Block.IsFirst text block)
      (hBody : ∀ {depth base : Nat}, region ∈ preorderAll (matchFrom limit depth base block.body).regions →
        ∃ inner start nested forest, Block.At base block.body region.offset inner nested ∧
          region = ofBody start nested forest)
      (h : region ∈ preorderAll (ofBlock limit depth base block (matchBody limit depth base block)).regions) :
      ∃ inner start nested forest, Block.At base text region.offset inner nested ∧
        region = ofBody start nested forest := by
    rw [regions_ofBlock] at h
    split at h
    · cases h
    · rw [preorderAll_cons, List.mem_append, List.mem_cons] at h
      rcases h with (rfl | hInner) | hNone
      · exact ⟨0, base, block, _, .first hFirst, rfl⟩
      · rw [ofBody, matchBody] at hInner
        split at hInner
        · cases hInner
        · obtain ⟨inner, start, nested, forest, hAt, hRegion⟩ := hBody hInner
          exact ⟨inner + 1, start, nested, forest, .inside hFirst hAt, hRegion⟩
      · cases hNone
  induction text using Block.induction generalizing depth base with
  | none text hNone =>
      rw [matchFrom_of_none _ _ _ hNone] at h
      cases h
  | closed text block post hFirst hPost ihBody ihPost =>
      rw [matchFrom_of_closed _ _ _ hFirst hPost, Forest.regions_append, preorderAll_append,
        List.mem_append] at h
      rcases h with hOwn | hLater
      · exact hBlock hFirst ihBody hOwn
      · obtain ⟨inner, start, nested, forest, hAt, hRegion⟩ := ihPost hLater
        exact ⟨inner, start, nested, forest, .behind hFirst hPost hAt, hRegion⟩
  | unclosed text block hFirst hPost ihBody =>
      rw [matchFrom_of_unclosed _ _ _ hFirst hPost] at h
      exact hBlock hFirst ihBody h

/-- A block reports nothing twice under one code. -/
theorem pairwise_code_ownIssues (limit depth : Nat) (block : Block) :
    (ownIssues limit depth block).Pairwise fun first second => first.code ≠ second.code := by
  rw [ownIssues, headerIssue?]
  cases (Header.classify (Text.lastFilledLine block.pre)).shape with
  | numbered | parameterized | bare | invalidId =>
      cases block.isClosed <;> cases reachesLimit limit depth block <;> simp [Issue.code]
  | unrecognized =>
      cases (Text.lastFilledLine block.pre).isEmpty <;> cases block.isClosed <;>
        cases reachesLimit limit depth block <;> simp [Issue.code]

theorem le_of_mem_findings {finding : Finding} (h : finding ∈ (matchFrom limit depth base text).findings) :
    base ≤ finding.offset ∧ finding.offset < base + Text.byteLength text :=
  Brace.offset_bounds (opening_of_mem_findings h)

/-- Findings come in the order of their braces. -/
theorem pairwise_findings (limit depth base : Nat) (text : List Char) :
    (matchFrom limit depth base text).findings.Pairwise Finding.Precedes := by
  -- The findings of a block: its own stand at its brace, the others behind it and in the body.
  have hBody {limit depth base : Nat} {block : Block} {finding : Finding}
      (h : finding ∈ (matchBody limit depth base block).findings) :
      base + block.bodyOffset ≤ finding.offset ∧ finding.offset < base + block.closeOffset := by
    rw [matchBody] at h
    split at h
    · cases h
    · rw [Block.closeOffset, ← Nat.add_assoc]
      exact le_of_mem_findings h
  have hBlock {limit depth base : Nat} {block : Block}
      (h : ∀ depth base, (matchFrom limit depth base block.body).findings.Pairwise Finding.Precedes) :
      (ofBlock limit depth base block (matchBody limit depth base block)).findings.Pairwise
        Finding.Precedes := by
    rw [findings_ofBlock, List.pairwise_append]
    refine ⟨?_, ?_, ?_⟩
    · rw [List.pairwise_map]
      exact (pairwise_code_ownIssues limit depth block).imp fun hCode => Or.inr ⟨rfl, hCode⟩
    · rw [matchBody]
      split
      · exact List.Pairwise.nil
      · exact h _ _
    · intro own hOwn inner hInner
      obtain ⟨issue, -, rfl⟩ := List.mem_map.mp hOwn
      have hBounds := (hBody hInner).1
      rw [Block.bodyOffset] at hBounds
      exact Or.inl (show base + block.openOffset < inner.offset by omega)
  induction text using Block.induction generalizing depth base with
  | none text hNone =>
      rw [matchFrom_of_none _ _ _ hNone]
      exact List.Pairwise.nil
  | closed text block post hFirst hPost ihBody ihPost =>
      rw [matchFrom_of_closed _ _ _ hFirst hPost, Forest.findings_append, List.pairwise_append]
      refine ⟨hBlock ihBody, ihPost _ _, ?_⟩
      intro first hFirst second hSecond
      have hBehind := (le_of_mem_findings hSecond).1
      rw [findings_ofBlock, List.mem_append, List.mem_map] at hFirst
      rcases hFirst with ⟨issue, -, rfl⟩ | hInner
      · rw [Block.closeOffset, Block.bodyOffset] at hBehind
        exact Or.inl (show base + block.openOffset < second.offset by omega)
      · have hBounds := hBody hInner
        exact Or.inl (by omega)
  | unclosed text block hFirst hPost ihBody =>
      rw [matchFrom_of_unclosed _ _ _ hFirst hPost]
      exact hBlock ihBody

theorem isBoundary_of_opensAt {block : Block} {offset : Nat} (h : block.OpensAt text offset) :
    Text.IsBoundary text offset := by
  obtain ⟨before, rest, rfl, rfl, -⟩ := h
  exact Text.isBoundary_byteLength before _

theorem charAt?_of_opensAt {block : Block} {offset : Nat} (h : block.OpensAt text offset) :
    (Position.ofOffset text offset).charAt? text = some '{' := by
  obtain ⟨before, rest, rfl, rfl, -⟩ := h
  rw [Position.ofOffset_append]
  exact Position.charAt?_behind before (by decide) _

/-- A finding of a source, its block and its brace. -/
theorem exists_brace_of_mem_findings {maxDepth : Nat} {finding : Finding}
    (h : finding ∈ (matchSource maxDepth text).findings) :
    ∃ depth block, finding.issue ∈ ownIssues (max 1 maxDepth) depth block ∧
      Block.At 0 text finding.offset depth block ∧ block.OpensAt text finding.offset := by
  obtain ⟨depth, block, hAt, hIssue⟩ := exists_at_of_mem_findings h
  obtain ⟨o, hOffset, hOpens⟩ := hAt.exists_opensAt
  rw [Nat.zero_add] at hIssue hOffset
  exact ⟨depth, block, hIssue, hAt, hOffset ▸ hOpens⟩

/-- No two findings of a source have one code and one position. -/
theorem nodup_places (maxDepth : Nat) (text : List Char) :
    ((diagnostics maxDepth text).map fun d => (d.code, d.position)).Nodup := by
  rw [diagnostics, List.map_map, List.Nodup, List.pairwise_map]
  apply (pairwise_findings (max 1 maxDepth) 0 0 text).imp_of_mem
  intro first second hFirst hSecond hPrecedes hEq
  obtain ⟨hCode, hPosition⟩ := Prod.mk.inj hEq
  obtain ⟨-, block, -, -, hBlock⟩ := exists_brace_of_mem_findings hFirst
  obtain ⟨-, other, -, -, hOther⟩ := exists_brace_of_mem_findings hSecond
  have hOffset := Position.injOn_ofOffset text (isBoundary_of_opensAt hBlock)
    (isBoundary_of_opensAt hOther) (Option.some.inj hPosition)
  rcases hPrecedes with hLt | ⟨-, hCodes⟩
  · omega
  · exact hCodes hCode

/-- Diagnostics point at braces. Each has a position, the character there is the opening brace of code of
the block that it is about, and no other diagnostic with its code has that position. The offset of a region,
too, is that of the opening brace of its block. -/
theorem diagnostics_point_at_braces (maxDepth : Nat) (text : List Char) :
    (∀ d ∈ diagnostics maxDepth text, ∃ position offset depth block issue,
      d.position = some position ∧ position.charAt? text = some '{' ∧
        position = Position.ofOffset text offset ∧ block.OpensAt text offset ∧
        Block.At 0 text offset depth block ∧ issue ∈ ownIssues (max 1 maxDepth) depth block ∧
        d = issue.report (some position)) ∧
      (∀ region ∈ preorderAll (matchSource maxDepth text).regions, ∃ depth block start inner,
        block.OpensAt text region.offset ∧ Block.At 0 text region.offset depth block ∧
          region = ofBody start block inner) ∧
      ((diagnostics maxDepth text).map fun d => (d.code, d.position)).Nodup := by
  refine ⟨?_, ?_, nodup_places maxDepth text⟩
  · intro d hd
    obtain ⟨finding, hFinding, rfl⟩ := List.mem_map.mp hd
    obtain ⟨depth, block, hIssue, hAt, hOpens⟩ := exists_brace_of_mem_findings hFinding
    exact ⟨_, finding.offset, depth, block, finding.issue, rfl, charAt?_of_opensAt hOpens, rfl, hOpens, hAt,
      hIssue, rfl⟩
  · intro region hRegion
    obtain ⟨depth, start, block, inner, hAt, rfl⟩ := exists_at_of_mem_preorderAll hRegion
    obtain ⟨o, hOffset, hOpens⟩ := hAt.exists_opensAt
    rw [Nat.zero_add] at hOffset
    exact ⟨depth, block, start, inner, hOffset ▸ hOpens, hAt, rfl⟩

/-- Two blocks that are never closed, behind characters of more than one byte. -/
def clefBlocks : List Char :=
  "é x\n\x7b 𝄞 \x7b".toList

/-- The second brace stands at byte 12 and in column 4. -/
theorem diagnostics_point_at_braces_clefBlocks :
    (diagnostics 64 clefBlocks).map (fun d => (d.code, d.position)) =
        [(.unrecognizedHeader, some ⟨1, 0⟩), (.unbalancedBrace, some ⟨1, 0⟩),
          (.unrecognizedHeader, some ⟨1, 4⟩), (.unbalancedBrace, some ⟨1, 4⟩)] ∧
      (∀ d ∈ diagnostics 64 clefBlocks, ∃ position, d.position = some position ∧
        position.charAt? clefBlocks = some '{') ∧
      ((diagnostics 64 clefBlocks).map fun d => (d.code, d.position)).Nodup := by
  refine ⟨by decide +kernel, ?_, (diagnostics_point_at_braces 64 clefBlocks).2.2⟩
  intro d hd
  obtain ⟨position, -, -, -, -, hPosition, hChar, -⟩ := (diagnostics_point_at_braces 64 clefBlocks).1 d hd
  exact ⟨position, hPosition, hChar⟩

end Region
end ObjectOutline
