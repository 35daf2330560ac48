import ObjectOutline.Proofs.Brace.FirstBlock
import ObjectOutline.Proofs.Text.Returns

/-! Blocks and line endings. A carriage return in front of a line feed changes nothing in how the text
behind the line feed is read, since whatever ends with a line ends at the line feed. So the blocks are the
same ones, apart from the carriage returns in them. -/
namespace ObjectOutline

/-- A mode that a line feed does not end goes on behind a carriage return, and one that it ends does not
end at a carriage return. -/
theorem Mode.step_return_lineFeed (mode : Mode) : (mode.step '\r').step '\n' = mode.step '\n' := by
  cases mode <;> rfl

namespace Block

/-- The same block with a carriage return in front of each line feed. -/
def withReturns (block : Block) : Block :=
  ⟨Text.withReturns block.pre, Text.withReturns block.body, block.post.map Text.withReturns⟩

theorem splitOpen?_withReturns (mode : Mode) (text : List Char) :
    splitOpen? mode (Text.withReturns text) =
      (splitOpen? mode text).map fun (pre, inner) => (Text.withReturns pre, Text.withReturns inner) := by
  induction text generalizing mode with
  | nil => rfl
  | cons c rest ih =>
      have hRest : (splitOpen? (mode.step c) (Text.withReturns rest)) =
          (splitOpen? (mode.step c) rest).map
            fun (pre, inner) => (Text.withReturns pre, Text.withReturns inner) := ih _
      by_cases hFeed : c = '\n'
      · subst hFeed
        have hReturn (mode : Mode) : mode.opens '\r' = false ∧ mode.opens '\n' = false := by
          simp [Mode.opens]
        rw [Text.withReturns_cons, Text.withReturn_lineFeed]
        simp only [List.cons_append, List.nil_append, splitOpen?, hReturn, Mode.step_return_lineFeed,
          hRest]
        cases splitOpen? (mode.step '\n') rest <;> rfl
      · rw [Text.withReturns_cons, Text.withReturn_of_ne hFeed, List.singleton_append, splitOpen?,
          splitOpen?, hRest]
        split
        · rfl
        · cases splitOpen? (mode.step c) rest with
          | none => rfl
          | some parts => simp [Text.withReturns_cons, Text.withReturn_of_ne hFeed]

theorem splitClose_withReturns (mode : Mode) (depth : Nat) (text : List Char) :
    splitClose mode depth (Text.withReturns text) =
      (Text.withReturns (splitClose mode depth text).1,
        (splitClose mode depth text).2.map Text.withReturns) := by
  induction text generalizing mode depth with
  | nil => rfl
  | cons c rest ih =>
      by_cases hFeed : c = '\n'
      · subst hFeed
        have hReturn (mode : Mode) : Brace.depthAfter depth (Brace.ofText mode 0 ['\r']) = some depth ∧
            Brace.depthAfter depth (Brace.ofText mode 0 ['\n']) = some depth := by
          simp [Brace.ofText, Mode.opens, Mode.closes, Brace.depthAfter]
        rw [Text.withReturns_cons, Text.withReturn_lineFeed, List.cons_append, List.singleton_append,
          splitClose_cons (hReturn _).1, splitClose_cons (hReturn _).2, splitClose_cons (hReturn _).2,
          Mode.step_return_lineFeed, ih]
        rfl
      · rw [Text.withReturns_cons, Text.withReturn_of_ne hFeed, List.singleton_append]
        cases hHere : Brace.depthAfter depth (Brace.ofText mode 0 [c]) with
        | none =>
            rw [(splitClose_cons_of_eq_none hHere _).2, (splitClose_cons_of_eq_none hHere _).2]
            rfl
        | some after =>
            rw [splitClose_cons hHere, splitClose_cons hHere, ih, Text.withReturns_cons,
              Text.withReturn_of_ne hFeed]
            rfl

theorem find?_withReturns (text : List Char) :
    find? (Text.withReturns text) = (find? text).map withReturns := by
  rw [find?, find?, splitOpen?_withReturns]
  cases splitOpen? .code text with
  | none => rfl
  | some parts => simp only [Option.map_some, splitClose_withReturns, withReturns]

theorem isClosed_withReturns (block : Block) : block.withReturns.isClosed = block.isClosed :=
  Option.isSome_map

theorem IsFirst.withReturns {text : List Char} {block : Block} (h : IsFirst text block) :
    IsFirst (Text.withReturns text) block.withReturns := by
  rw [← find?_eq_some_iff] at h ⊢
  rw [find?_withReturns, h, Option.map_some]

end Block
end ObjectOutline
