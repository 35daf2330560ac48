import ObjectOutline.Proofs.Brace.BlockNesting

/-! Unclosed braces: what a single pass over a text leaves on its stack. The braces on the stack are
in the order of their places, and they are exactly the opening braces that no closing brace matches.
Of the blocks of a text only the last one can be unclosed, so a body of its own accounts for all that
is left open inside it. -/
namespace ObjectOutline

namespace Brace

variable {stack : List Nat} {braces : List Brace}

/-- The braces on a stack are in order, and a run of braces in order follows them. -/
structure InOrder (stack : List Nat) (braces : List Brace) : Prop where
  stackSorted : stack.Pairwise (fun inner outer => outer < inner)
  bracesSorted : braces.Pairwise (fun first second => first.offset < second.offset)
  between : ∀ o ∈ stack, ∀ brace ∈ braces, o < brace.offset

/-- One brace keeps the order. -/
theorem InOrder.next {brace : Brace} {rest : List Brace} (h : InOrder stack (brace :: rest)) :
    InOrder (push stack brace) rest := by
  obtain ⟨hStack, hBraces, hBetween⟩ := h
  obtain ⟨hFirst, hRest⟩ := List.pairwise_cons.mp hBraces
  have hLater : ∀ o ∈ stack, ∀ later ∈ rest, o < later.offset := fun o ho later hLater =>
    hBetween o ho later (List.mem_cons_of_mem _ hLater)
  cases brace with
  | opening o =>
      refine ⟨?_, hRest, ?_⟩
      · exact List.pairwise_cons.mpr ⟨fun outer hOuter => hBetween outer hOuter _ List.mem_cons_self,
          hStack⟩
      · intro o' ho' later hMem
        rcases List.mem_cons.mp ho' with rfl | hOuter
        · exact hFirst later hMem
        · exact hLater o' hOuter later hMem
  | closing c =>
      exact ⟨hStack.tail, hRest, fun o ho => hLater o (List.mem_of_mem_tail ho)⟩

theorem inOrder_ofText (mode : Mode) (start : Nat) (text : List Char) :
    InOrder [] (ofText mode start text) :=
  ⟨List.Pairwise.nil, ofText_sorted mode start text, by simp⟩

/-- The stack stays in order. -/
theorem InOrder.pairwise_stackAfter (h : InOrder stack braces) :
    (stackAfter stack braces).Pairwise (fun inner outer => outer < inner) := by
  induction braces generalizing stack with
  | nil => exact h.stackSorted
  | cons brace rest ih => exact ih h.next

/-- A brace is left on the stack when it was there or was put there and nothing has matched it. -/
theorem InOrder.mem_stackAfter_iff (h : InOrder stack braces) (o : Nat) :
    o ∈ stackAfter stack braces ↔
      (o ∈ stack ∨ opening o ∈ braces) ∧ ∀ c, (o, c) ∉ pairs stack braces := by
  induction braces generalizing stack with
  | nil => simp [stackAfter, pairs]
  | cons brace rest ih =>
      have hRest := ih h.next
      cases brace with
      | opening o' =>
          rw [stackAfter_cons, hRest, pairs]
          simp only [push, List.mem_cons, opening.injEq]
          rw [or_assoc, or_left_comm]
      | closing c =>
          cases stack with
          | nil => simpa [stackAfter_cons, pairs, push] using hRest
          | cons top outer =>
              -- Only `top` is matched here: the order tells it from every other brace.
              have hOuter : top ∉ outer := fun hMem =>
                Nat.lt_irrefl top (List.rel_of_pairwise_cons h.stackSorted hMem)
              have hLater : opening top ∉ rest := fun hMem =>
                Nat.lt_irrefl top
                  (h.between top List.mem_cons_self _ (List.mem_cons_of_mem _ hMem))
              rw [stackAfter_cons, hRest]
              simp only [push, List.tail_cons, pairs, List.head?_cons, Option.map_some,
                Option.toList_some, List.mem_cons, List.singleton_append, Prod.mk.injEq, not_or,
                reduceCtorEq, false_or]
              constructor
              · rintro ⟨hMem, hPairs⟩
                refine ⟨hMem.imp_left Or.inr, fun c' => ⟨?_, hPairs c'⟩⟩
                rintro ⟨rfl, -⟩
                exact hMem.elim hOuter hLater
              · rintro ⟨hMem, hPairs⟩
                refine ⟨hMem.imp_left fun hStack => hStack.resolve_left ?_, fun c' => (hPairs c').2⟩
                rintro rfl
                exact (hPairs c).1 ⟨rfl, rfl⟩

end Brace

namespace Nesting

/-- The opening braces of code that a text never closes, in order. -/
def unclosed (text : List Char) : List Nat :=
  (Brace.stackAfter [] (braces text)).reverse

/-- They are the opening braces without a closing one. -/
theorem mem_unclosed_iff (text : List Char) (o : Nat) :
    o ∈ unclosed text ↔ ∃ x ∈ openings text, x.offset = o ∧ isClosed text x = false := by
  have hOrder := Brace.inOrder_ofText .code 0 text
  rw [unclosed, List.mem_reverse, braces, hOrder.mem_stackAfter_iff]
  simp only [List.not_mem_nil, false_or]
  constructor
  · rintro ⟨hOpening, hPairs⟩
    obtain ⟨x, hx, rfl⟩ := Brace.exists_mem_openings [] hOpening
    refine ⟨x, hx, rfl, ?_⟩
    rw [isClosed, List.any_eq_false]
    rintro ⟨o, c⟩ hPair hEq
    exact hPairs c (beq_iff_eq.mp hEq ▸ hPair)
  · rintro ⟨x, hx, rfl, hOpen⟩
    refine ⟨Brace.mem_of_mem_openings hx, fun c hPair => ?_⟩
    rw [isClosed, List.any_eq_false] at hOpen
    exact hOpen _ hPair (beq_self_eq_true x.offset)

theorem unclosed_sorted (text : List Char) : (unclosed text).Pairwise (· < ·) :=
  List.pairwise_reverse.mpr (Brace.inOrder_ofText .code 0 text).pairwise_stackAfter

end Nesting

namespace Block.IsFirst

variable {text post : List Char} {block : Block}

theorem stackAfter_pre (h : IsFirst text block) (start : Nat) :
    Brace.stackAfter [] (Brace.ofText .code start block.pre) = [] :=
  Brace.stackAfter_of_closing (Brace.isOpening_of_mem_ofText start h.preBraces)

/-- A closed block leaves nothing on the stack. -/
theorem stackAfter_of_closed (h : IsFirst text block) (hPost : block.post = some post)
    (start : Nat) :
    Brace.stackAfter [] (Brace.ofText .code start text) =
      Brace.stackAfter [] (Brace.ofText .code (start + block.closeOffset + 1) post) := by
  rw [h.braces_of_closed hPost, Brace.stackAfter_append, h.stackAfter_pre, Brace.stackAfter_cons,
    Brace.push, Brace.stackAfter_append, h.stackAfter_body hPost, Brace.stackAfter_cons, Brace.push,
    List.tail_cons]

/-- An unclosed block leaves its own brace below what its body leaves. -/
theorem stackAfter_of_unclosed (h : IsFirst text block) (hPost : block.post = none) (start : Nat) :
    Brace.stackAfter [] (Brace.ofText .code start text) =
      Brace.stackAfter [] (Brace.ofText .code (start + block.bodyOffset) block.body) ++
        [start + block.openOffset] := by
  have hDepth := h.isSome_depthAfter_body (start + block.bodyOffset)
  rw [h.braces_of_unclosed hPost, Brace.stackAfter_append, h.stackAfter_pre, Brace.stackAfter_cons,
    Brace.push]
  exact Brace.stackAfter_append_stack [] [start + block.openOffset] hDepth

/-- The first block of a text that closes all that it opens is closed. -/
theorem post_ne_none (h : IsFirst text block)
    (hDepth : Brace.depthAfter 0 (Brace.ofText .code 0 text) = some 0) : block.post ≠ none := by
  intro hPost
  have hStack := Brace.length_stackAfter [] hDepth
  rw [h.stackAfter_of_unclosed hPost, List.length_append] at hStack
  cases hStack

end Block.IsFirst
end ObjectOutline
