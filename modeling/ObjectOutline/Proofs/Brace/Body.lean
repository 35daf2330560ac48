import ObjectOutline.Proofs.Brace.BlockNesting

/-! Bodies of blocks. A text that closes what it opens may stand between two braces, and the reader
that passes over such a block is where it would be without it. So the braces around a block, and the
text in front of the first of them, do not depend on what is inside the block. -/
namespace ObjectOutline

namespace Text

/-- Read from code, the text closes what it opens and nothing else, and what follows it is code. -/
structure IsBody (text : List Char) : Prop where
  depth : Brace.depthAfter 0 (Brace.ofText .code 0 text) = some 0
  mode : (Mode.code.run text).readsCode = true

namespace IsBody

variable {body : List Char}

theorem run_block (hBody : IsBody body) {mode : Mode} (hMode : mode.readsCode = true)
    (rest : List Char) : mode.run ('{' :: (body ++ '}' :: rest)) = Mode.code.run rest := by
  rw [Mode.run_cons, Mode.step_of_opens (Mode.opens_iff.mpr ⟨hMode, rfl⟩), Mode.run_append,
    Mode.run_cons, Mode.step_of_closes (Mode.closes_iff.mpr ⟨hBody.mode, rfl⟩)]

theorem depthAfter_block (hBody : IsBody body) {mode : Mode} (hMode : mode.readsCode = true)
    (depth start : Nat) :
    Brace.depthAfter depth (Brace.ofText mode start ('{' :: (body ++ ['}']))) = some depth := by
  have hInside : Brace.depthAfter (depth + 1) (Brace.ofText .code (start + 1) body) =
      some (depth + 1) := by
    have hAdd := Brace.depthAfter_add hBody.depth (depth + 1)
    rwa [Nat.zero_add, ← Brace.depthAfter_ofText _ _ (start + 1)] at hAdd
  rw [Brace.ofText_cons_of_opens (Mode.opens_iff.mpr ⟨hMode, rfl⟩), Brace.depthAfter,
    Brace.ofText_append, Brace.depthAfter_append, hInside, Option.bind_some,
    Brace.ofText_cons_of_closes (Mode.closes_iff.mpr ⟨hBody.mode, rfl⟩)]
  rfl

theorem isFirst (hBody : IsBody body) {pre : List Char} (hMode : (Mode.code.run pre).readsCode = true)
    (hPre : ∀ brace ∈ Brace.ofText .code 0 pre, brace.isOpening = false) (post : List Char) :
    Block.IsFirst (pre ++ '{' :: (body ++ '}' :: post)) ⟨pre, body, some post⟩ := by
  have hFirst := Block.isFirst_of_balanced hMode hPre hBody.mode hBody.depth post
  rwa [List.append_assoc] at hFirst

end IsBody
end Text

namespace Block

/-- A block written behind an unclosed one lies in its body, which ends where it does whatever is
inside the block. -/
theorem IsFirst.exists_around {text : List Char} {block : Block} (h : IsFirst text block)
    (hPost : block.post = none) (hMode : (Mode.code.run text).readsCode = true)
    (after : List Char) :
    ∃ inside rest, ∀ body, Text.IsBody body →
      IsFirst (text ++ '{' :: (body ++ '}' :: after))
        ⟨block.pre, block.body ++ '{' :: (body ++ '}' :: inside), rest⟩ := by
  rw [h.run_of_unclosed hPost] at hMode
  obtain ⟨depth, hDepth⟩ := Option.isSome_iff_exists.mp h.openBraces
  obtain ⟨inside, rest, hMore⟩ := h.exists_append_of_unclosed hPost .code depth after
  refine ⟨inside, rest, fun body hBody => ?_⟩
  have hAround := hMore ('{' :: (body ++ ['}'])) ?_ ?_
  · simpa using hAround
  · rw [Mode.run_append, hBody.run_block hMode, Mode.run_nil]
  · rw [Brace.ofText_append, Brace.depthAfter_append, hDepth, Option.bind_some,
      hBody.depthAfter_block hMode]

/-- What stands before the first opening brace is settled in front of the block. -/
theorem exists_pre {before : List Char} (hMode : (Mode.code.run before).readsCode = true)
    (after : List Char) :
    ∃ pre, ∀ body, Text.IsBody body →
      (find? (before ++ '{' :: (body ++ '}' :: after))).map Block.pre = some pre := by
  cases hFind : find? before with
  | none =>
      refine ⟨before, fun body hBody => ?_⟩
      have hFirst := hBody.isFirst hMode ((find?_eq_none_iff before).mp hFind) after
      rw [(find?_eq_some_iff _ _).mpr hFirst]
      rfl
  | some block =>
      have hFirst := (find?_eq_some_iff before block).mp hFind
      refine ⟨block.pre, fun body hBody => ?_⟩
      cases hPost : block.post with
      | none =>
          obtain ⟨inside, rest, hAround⟩ := hFirst.exists_around hPost hMode after
          rw [(find?_eq_some_iff _ _).mpr (hAround body hBody)]
          rfl
      | some post =>
          rw [(find?_eq_some_iff _ _).mpr (hFirst.append_of_closed hPost _)]
          rfl

end Block
end ObjectOutline
