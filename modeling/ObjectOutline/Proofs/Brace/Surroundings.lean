import ObjectOutline.Proofs.Brace.Unclosed

/-! What is open at the end of a text. Of the blocks that a text opens, those that it never closes stand
around whatever follows it, each one inside the one before. -/
namespace ObjectOutline.Block

/-- The blocks that a text leaves open, from the outermost to the innermost, and the text behind the last
block that is closed in the innermost one. -/
structure Surroundings where
  blocks : List Block
  gap : List Char

def surroundings (text : List Char) : Surroundings :=
  match _ : find? text with
  | none => ⟨[], text⟩
  | some block =>
    match _ : block.post with
    | some post => surroundings post
    | none =>
      let inner := surroundings block.body
      ⟨block :: inner.blocks, inner.gap⟩
termination_by text.length
decreasing_by
  · exact post_length_lt ‹find? text = some block› ‹block.post = some post›
  · exact body_length_lt ‹find? text = some block›

theorem surroundings_of_none {text : List Char} (h : find? text = none) :
    surroundings text = ⟨[], text⟩ := by
  rw [surroundings]
  split <;> simp_all

namespace IsFirst

variable {text post : List Char} {block : Block}

theorem surroundings_of_closed (h : IsFirst text block) (hPost : block.post = some post) :
    surroundings text = surroundings post := by
  have hFind := (find?_eq_some_iff text block).mpr h
  rw [surroundings]
  split
  · simp_all
  · split <;> simp_all

theorem surroundings_of_unclosed (h : IsFirst text block) (hPost : block.post = none) :
    surroundings text =
      ⟨block :: (surroundings block.body).blocks, (surroundings block.body).gap⟩ := by
  have hFind := (find?_eq_some_iff text block).mpr h
  rw [surroundings]
  split
  · simp_all
  · split <;> simp_all

end IsFirst

/-- Every brace that is left on the stack is that of one of these blocks. -/
theorem length_surroundings_blocks (start : Nat) (text : List Char) :
    (surroundings text).blocks.length =
      (Brace.stackAfter [] (Brace.ofText .code start text)).length := by
  induction text using Block.induction generalizing start with
  | none text hNone =>
      have hClosing := Brace.isOpening_of_mem_ofText start ((find?_eq_none_iff text).mp hNone)
      rw [surroundings_of_none hNone, Brace.stackAfter_of_closing hClosing]
      rfl
  | closed text block post hFirst hPost ihBody ihPost =>
      rw [hFirst.surroundings_of_closed hPost, hFirst.stackAfter_of_closed hPost, ihPost]
  | unclosed text block hFirst hPost ihBody =>
      rw [hFirst.surroundings_of_unclosed hPost, hFirst.stackAfter_of_unclosed hPost,
        List.length_cons, ihBody, List.length_append, List.length_singleton]

theorem eq_zero_of_surroundings_blocks {text : List Char} {depth : Nat}
    (hDepth : Brace.depthAfter 0 (Brace.ofText .code 0 text) = some depth)
    (hNil : (surroundings text).blocks = []) : depth = 0 := by
  rw [← Brace.length_stackAfter [] hDepth, ← length_surroundings_blocks, hNil, List.length_nil]

/-- More text behind a text that closes all that it opens does not reach into the block. -/
theorem find?_append_of_isClosed {text : List Char} {block : Block} (h : find? text = some block)
    (hClosed : block.isClosed = true) (more : List Char) :
    ∃ rest, find? (text ++ more) = some { block with post := some rest } := by
  obtain ⟨post, hPost⟩ := Option.isSome_iff_exists.mp hClosed
  have hFirst := (find?_eq_some_iff text block).mp h
  exact ⟨post ++ more, (find?_eq_some_iff _ _).mpr (hFirst.append_of_closed hPost more)⟩

/-- When more text closes all that is left open, it closes each of these blocks. -/
theorem isClosed_of_mem_surroundings {text more : List Char} {block : Block}
    (hDepth : Brace.depthAfter 0 (Brace.ofText .code 0 (text ++ more)) = some 0)
    (hBlock : block ∈ (surroundings text).blocks) :
    ∃ longer, find? (block.text ++ more) = some longer ∧ longer.isClosed = true := by
  induction text using Block.induction generalizing more with
  | none text hNone =>
      rw [surroundings_of_none hNone] at hBlock
      cases hBlock
  | closed text first post hFirst hPost ihBody ihPost =>
      have hMore := hFirst.append_of_closed hPost more
      rw [hFirst.surroundings_of_closed hPost] at hBlock
      exact ihPost (hMore.depthAfter_post rfl hDepth) hBlock
  | unclosed text first hFirst hPost ihBody =>
      obtain ⟨inside, rest, hMore⟩ := hFirst.append_of_unclosed hPost more
      cases rest with
      | none => exact absurd rfl (hMore.post_ne_none hDepth)
      | some rest =>
          rw [hFirst.surroundings_of_unclosed hPost] at hBlock
          rcases List.mem_cons.mp hBlock with rfl | hInner
          · rw [hFirst.text_eq]
            exact ⟨_, (find?_eq_some_iff _ _).mpr hMore, rfl⟩
          · obtain ⟨longer, hFind, hClosed⟩ := ihBody (hMore.bodyBraces rfl) hInner
            obtain ⟨post, hLonger⟩ := find?_append_of_isClosed hFind hClosed ('}' :: rest)
            have hText : more = inside ++ '}' :: rest := by
              have hBoth := hMore.text_eq
              rw [hFirst.eq_of_unclosed hPost, Block.text] at hBoth
              simpa using hBoth.symm
            rw [hText, ← List.append_assoc]
            exact ⟨_, hLonger, rfl⟩

end ObjectOutline.Block
