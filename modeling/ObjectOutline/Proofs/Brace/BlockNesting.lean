import ObjectOutline.Proofs.Brace.FirstBlock

/-! The nesting of a text in terms of the nesting of the parts around its first block. Each part is
read from code again and from its own start; the single pass over the whole text finds the same braces
and matches them in the same way. -/
namespace ObjectOutline.Block

/-- Where the closing brace of a closed block stands. -/
def closeOffset (block : Block) : Nat :=
  block.bodyOffset + Text.byteLength block.body

namespace IsFirst

variable {text post : List Char} {block : Block} {stack : List Nat} {start : Nat}

theorem braces_of_closed (h : IsFirst text block) (hPost : block.post = some post) (start : Nat) :
    Brace.ofText .code start text =
      Brace.ofText .code start block.pre ++
        .opening (start + block.openOffset) ::
          (Brace.ofText .code (start + block.bodyOffset) block.body ++
            .closing (start + block.closeOffset) ::
              Brace.ofText .code (start + block.closeOffset + 1) post) := by
  have hClosed := isClosed_of_post hPost
  have hOpens : (Mode.code.run block.pre).opens '{' = true := Mode.opens_iff.mpr ⟨h.preMode, rfl⟩
  have hCloses : (Mode.code.run block.body).closes '}' = true :=
    Mode.closes_iff.mpr ⟨h.bodyMode hClosed, rfl⟩
  rw [h.eq_of_closed hPost]
  simp only [List.append_assoc, List.cons_append]
  rw [Brace.ofText_append, Brace.ofText_cons_of_opens hOpens, Brace.ofText_append,
    Brace.ofText_cons_of_closes hCloses]
  simp only [closeOffset, bodyOffset, openOffset, Nat.add_assoc]

theorem braces_of_unclosed (h : IsFirst text block) (hPost : block.post = none) (start : Nat) :
    Brace.ofText .code start text =
      Brace.ofText .code start block.pre ++
        .opening (start + block.openOffset) ::
          Brace.ofText .code (start + block.bodyOffset) block.body := by
  have hOpens : (Mode.code.run block.pre).opens '{' = true := Mode.opens_iff.mpr ⟨h.preMode, rfl⟩
  rw [h.eq_of_unclosed hPost]
  rw [Brace.ofText_append, Brace.ofText_cons_of_opens hOpens]
  simp only [bodyOffset, openOffset, Nat.add_assoc]

theorem run_of_closed (h : IsFirst text block) (hPost : block.post = some post) :
    Mode.code.run text = Mode.code.run post := by
  have hClosed := isClosed_of_post hPost
  have hCloses : (Mode.code.run block.body).closes '}' = true :=
    Mode.closes_iff.mpr ⟨h.bodyMode hClosed, rfl⟩
  have hOpens : (Mode.code.run block.pre).opens '{' = true := Mode.opens_iff.mpr ⟨h.preMode, rfl⟩
  rw [h.eq_of_closed hPost]
  simp [Mode.step_of_opens hOpens, Mode.step_of_closes hCloses]

theorem run_of_unclosed (h : IsFirst text block) (hPost : block.post = none) :
    Mode.code.run text = Mode.code.run block.body := by
  have hOpens : (Mode.code.run block.pre).opens '{' = true := Mode.opens_iff.mpr ⟨h.preMode, rfl⟩
  rw [h.eq_of_unclosed hPost]
  simp [Mode.step_of_opens hOpens]

theorem byteLength_of_closed (h : IsFirst text block) (hPost : block.post = some post) :
    Text.byteLength text = block.closeOffset + 1 + Text.byteLength post := by
  have hSize : '{'.utf8Size = 1 ∧ '}'.utf8Size = 1 := by decide
  rw [h.eq_of_closed hPost]
  simp [closeOffset, bodyOffset, openOffset, hSize]
  omega

theorem byteLength_of_unclosed (h : IsFirst text block) (hPost : block.post = none) :
    Text.byteLength text = block.closeOffset := by
  have hSize : '{'.utf8Size = 1 := by decide
  rw [h.eq_of_unclosed hPost]
  simp [closeOffset, bodyOffset, openOffset, hSize]
  omega

theorem isSome_depthAfter_body (h : IsFirst text block) (start : Nat) :
    (Brace.depthAfter 0 (Brace.ofText .code start block.body)).isSome = true := by
  rw [Brace.depthAfter_ofText]
  exact h.openBraces

/-- The body of a block closes nothing that is open around it. -/
theorem keeps_body (h : IsFirst text block) (stack : List Nat) (start : Nat) :
    Brace.Keeps stack (Brace.ofText .code start block.body) :=
  Or.inr (h.isSome_depthAfter_body start)

theorem depthAfter_body (h : IsFirst text block) (hPost : block.post = some post) (start : Nat) :
    Brace.depthAfter 0 (Brace.ofText .code start block.body) = some 0 := by
  rw [Brace.depthAfter_ofText]
  exact h.bodyBraces (isClosed_of_post hPost)

/-- The braces before the first block change nothing. -/
theorem skip_pre (h : IsFirst text block) {rest : List Brace}
    (hKeeps : Brace.Keeps stack (Brace.ofText .code start block.pre ++ rest)) :
    Brace.openings stack (Brace.ofText .code start block.pre ++ rest) = Brace.openings stack rest ∧
      Brace.pairs stack (Brace.ofText .code start block.pre ++ rest) = Brace.pairs stack rest ∧
      Brace.Keeps stack rest := by
  have hPre := Brace.isOpening_of_mem_ofText start h.preBraces
  obtain ⟨hStack, hPairs, hRest⟩ := hKeeps.skip hPre
  refine ⟨?_, ?_, hRest⟩
  · rw [Brace.openings_append, Brace.openings_eq_nil hPre, hStack, List.nil_append]
  · rw [Brace.pairs_append, hPairs, hStack, List.nil_append]

/-- The stack behind a closed block is the stack before it. -/
theorem stackAfter_body (h : IsFirst text block) (hPost : block.post = some post) (start o : Nat) :
    Brace.stackAfter (o :: stack) (Brace.ofText .code start block.body) = o :: stack :=
  Brace.stackAfter_of_balanced (h.depthAfter_body hPost start)

theorem openings_of_closed (h : IsFirst text block) (hPost : block.post = some post)
    (hKeeps : Brace.Keeps stack (Brace.ofText .code start text)) :
    Brace.openings stack (Brace.ofText .code start text) =
      ⟨start + block.openOffset, stack⟩ ::
        (Brace.openings ((start + block.openOffset) :: stack)
            (Brace.ofText .code (start + block.bodyOffset) block.body) ++
          Brace.openings stack (Brace.ofText .code (start + block.closeOffset + 1) post)) := by
  rw [h.braces_of_closed hPost] at hKeeps ⊢
  rw [(h.skip_pre hKeeps).1, Brace.openings, Brace.openings_append, h.stackAfter_body hPost]
  rfl

theorem pairs_of_closed (h : IsFirst text block) (hPost : block.post = some post)
    (hKeeps : Brace.Keeps stack (Brace.ofText .code start text)) :
    Brace.pairs stack (Brace.ofText .code start text) =
      Brace.pairs ((start + block.openOffset) :: stack)
          (Brace.ofText .code (start + block.bodyOffset) block.body) ++
        (start + block.openOffset, start + block.closeOffset) ::
          Brace.pairs stack (Brace.ofText .code (start + block.closeOffset + 1) post) := by
  rw [h.braces_of_closed hPost] at hKeeps ⊢
  rw [(h.skip_pre hKeeps).2.1, Brace.pairs, Brace.pairs_append, h.stackAfter_body hPost]
  rfl

theorem openings_of_unclosed (h : IsFirst text block) (hPost : block.post = none)
    (hKeeps : Brace.Keeps stack (Brace.ofText .code start text)) :
    Brace.openings stack (Brace.ofText .code start text) =
      ⟨start + block.openOffset, stack⟩ ::
        Brace.openings ((start + block.openOffset) :: stack)
          (Brace.ofText .code (start + block.bodyOffset) block.body) := by
  rw [h.braces_of_unclosed hPost] at hKeeps ⊢
  rw [(h.skip_pre hKeeps).1, Brace.openings]

theorem pairs_of_unclosed (h : IsFirst text block) (hPost : block.post = none)
    (hKeeps : Brace.Keeps stack (Brace.ofText .code start text)) :
    Brace.pairs stack (Brace.ofText .code start text) =
      Brace.pairs ((start + block.openOffset) :: stack)
        (Brace.ofText .code (start + block.bodyOffset) block.body) := by
  rw [h.braces_of_unclosed hPost] at hKeeps ⊢
  rw [(h.skip_pre hKeeps).2.1, Brace.pairs]

/-- The text behind a closed block closes nothing that is open around the block. -/
theorem keeps_post (h : IsFirst text block) (hPost : block.post = some post)
    (hKeeps : Brace.Keeps stack (Brace.ofText .code start text)) :
    Brace.Keeps stack (Brace.ofText .code (start + block.closeOffset + 1) post) := by
  rw [h.braces_of_closed hPost] at hKeeps
  have hRest := (h.skip_pre hKeeps).2.2
  rw [List.append_cons, ← List.cons_append] at hRest
  exact hRest.of_append (Brace.depthAfter_block (h.depthAfter_body hPost _) _ _)

/-- A closed block closes only what it opens, so the text behind it ends at the depth of the whole
text. -/
theorem depthAfter_post (h : IsFirst text block) (hPost : block.post = some post) {depth : Nat}
    (hDepth : Brace.depthAfter 0 (Brace.ofText .code 0 text) = some depth) :
    Brace.depthAfter 0 (Brace.ofText .code 0 post) = some depth := by
  have hBlock := Brace.depthAfter_block (h.depthAfter_body hPost (0 + block.bodyOffset))
    (0 + block.openOffset) (0 + block.closeOffset)
  rw [h.braces_of_closed hPost, Brace.depthAfter_append] at hDepth
  obtain ⟨before, hPre, hRest⟩ := Option.bind_eq_some_iff.mp hDepth
  -- No closing brace stands in front of the block, so the depth is 0 there and behind it.
  have hNil := Brace.eq_nil_of_isSome_depthAfter h.preBraces (by rw [hPre]; rfl)
  rw [hNil] at hPre
  obtain rfl : 0 = before := Option.some.inj hPre
  rw [List.append_cons, ← List.cons_append, Brace.depthAfter_append, hBlock, Option.bind_some,
    Brace.depthAfter_ofText] at hRest
  exact hRest

/-- The opening brace of the first block of a text has the whole stack around it. -/
theorem exists_opening_at (h : IsFirst text block)
    (hKeeps : Brace.Keeps stack (Brace.ofText .code start text)) :
    ⟨start + block.openOffset, stack⟩ ∈ Brace.openings stack (Brace.ofText .code start text) := by
  cases hPost : block.post with
  | none =>
      rw [h.openings_of_unclosed hPost hKeeps]
      exact List.mem_cons_self
  | some post =>
      rw [h.openings_of_closed hPost hKeeps]
      exact List.mem_cons_self

end IsFirst
end ObjectOutline.Block
