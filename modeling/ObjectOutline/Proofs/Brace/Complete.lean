import ObjectOutline.Proofs.Brace.Quiet
import ObjectOutline.Proofs.Brace.Unclosed
import ObjectOutline.Proofs.Text.Lines

/-! Complete sources. A complete source closes what it opens and nothing else, and has only blank
lines behind its last brace, so nothing in it reaches into a text that follows it. What is left of it
behind its first block is complete again. -/
namespace ObjectOutline

namespace Brace

/-- The text behind the last brace of code, which is the whole text when there is none. -/
def lastGap (mode : Mode) : List Char → List Char
  | [] => []
  | c :: rest => if ofText mode 0 (c :: rest) = [] then c :: rest else lastGap (mode.step c) rest

theorem lastGap_of_ofText_eq_nil {mode : Mode} {text : List Char} (h : ofText mode 0 text = []) :
    lastGap mode text = text := by
  cases text with
  | nil => rfl
  | cons c rest => rw [lastGap, if_pos h]

theorem ofText_append_closing_ne_nil {mode : Mode} {front : List Char}
    (hMode : (mode.run front).readsCode = true) (rest : List Char) :
    ofText mode 0 (front ++ '}' :: rest) ≠ [] := by
  rw [ofText_append, ofText_cons_of_closes (Mode.closes_iff.mpr ⟨hMode, rfl⟩)]
  simp

/-- The last gap lies behind every closing brace of code. -/
theorem lastGap_append_closing {mode : Mode} {front : List Char}
    (hMode : (mode.run front).readsCode = true) (rest : List Char) :
    lastGap mode (front ++ '}' :: rest) = lastGap .code rest := by
  induction front generalizing mode with
  | nil =>
      have hFilled := ofText_append_closing_ne_nil hMode rest
      have hStep : mode.step '}' = .code := Mode.step_of_closes (Mode.closes_iff.mpr ⟨hMode, rfl⟩)
      rw [List.nil_append] at hFilled ⊢
      rw [lastGap, if_neg hFilled, hStep]
  | cons c front ih =>
      have hFilled := ofText_append_closing_ne_nil hMode rest
      rw [List.cons_append] at hFilled ⊢
      rw [lastGap, if_neg hFilled]
      exact ih hMode

end Brace

namespace Text

/-- The source consists of whole lines, every brace of code in it is matched, and only blanks follow
the last one. So what is read behind it is read as code. -/
structure IsComplete (source : List Char) : Prop where
  lines : EndsLine source
  depth : Brace.depthAfter 0 (Brace.ofText .code 0 source) = some 0
  gap : ∀ c ∈ Brace.lastGap .code source, isBlank c = true

namespace IsComplete

variable {source : List Char}

/-- A complete source without a block is blank. -/
theorem isBlank_of_find?_eq_none (h : IsComplete source) (hNone : Block.find? source = none) :
    ∀ c ∈ source, isBlank c = true := by
  have hBraces := Brace.eq_nil_of_isSome_depthAfter ((Block.find?_eq_none_iff source).mp hNone)
    (by rw [h.depth]; rfl)
  have hGap := h.gap
  rwa [Brace.lastGap_of_ofText_eq_nil hBraces] at hGap

theorem post {block : Block} {post : List Char} (h : IsComplete source)
    (hFirst : Block.IsFirst source block) (hPost : block.post = some post) : IsComplete post := by
  have hClosed := Block.isClosed_of_post hPost
  have hText := hFirst.eq_of_closed hPost
  refine ⟨?_, hFirst.depthAfter_post hPost h.depth, ?_⟩
  · have hLines := h.lines
    rw [hText, List.append_cons] at hLines
    exact hLines.of_append
  · have hMode : (Mode.code.run (block.pre ++ '{' :: block.body)).readsCode = true := by
      rw [Mode.run_append, Mode.run_cons,
        Mode.step_of_opens (Mode.opens_iff.mpr ⟨hFirst.preMode, rfl⟩)]
      exact hFirst.bodyMode hClosed
    have hGap := h.gap
    rwa [hText, Brace.lastGap_append_closing hMode] at hGap

end IsComplete
end Text
end ObjectOutline
