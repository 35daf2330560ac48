import ObjectOutline.Proofs.Brace.FirstBlock
import ObjectOutline.Proofs.Brace.Stack
import ObjectOutline.Text.Identifier

/-! Quiet text and balanced text. Quiet text is passed over without a brace of code. What it holds may
open a literal, a quoted identifier or a line comment; the end of the line closes them all. Only a
block comment would run on into the next line, so a quiet line leaves none open. Balanced text closes
what it opens, and a balanced text between braces is the first block of what stands around it. -/
namespace ObjectOutline

namespace Mode

/-- The reader is inside a block comment. -/
def inBlockComment : Mode → Bool
  | blockComment | star => true
  | code | slash | literal | apostrophe | quotedIdentifier | lineComment => false

/-- Whatever a line has left open, block comments apart, its line feed closes. -/
theorem step_lineFeed {mode : Mode} (h : mode.inBlockComment = false) :
    mode.step '\n' = code := by
  cases mode <;> first | rfl | simp [inBlockComment] at h

@[simp] theorem inBlockComment_afterCode (c : Char) : (afterCode c).inBlockComment = false := by
  rw [afterCode]
  repeat' split
  all_goals rfl

/-- Only a star opens a block comment. -/
theorem inBlockComment_step {mode : Mode} {c : Char} (h : mode.inBlockComment = false)
    (hStar : c ≠ '*') : (mode.step c).inBlockComment = false := by
  cases mode with
  | blockComment => simp [inBlockComment] at h
  | star => simp [inBlockComment] at h
  | code => simp [step]
  | slash =>
      rw [step, if_neg hStar]
      split
      · rfl
      · exact inBlockComment_afterCode c
  | apostrophe =>
      rw [step]
      split
      · rfl
      · exact inBlockComment_afterCode c
  | literal =>
      rw [step]
      split
      · rfl
      · split <;> rfl
  | quotedIdentifier | lineComment =>
      rw [step]
      split <;> rfl

/-- No block comment is open, and the last character is not the slash that could open one. -/
def isClear : Mode → Bool
  | slash | blockComment | star => false
  | code | literal | apostrophe | quotedIdentifier | lineComment => true

theorem inBlockComment_of_isClear {mode : Mode} (h : mode.isClear = true) :
    mode.inBlockComment = false := by
  cases mode <;> first | rfl | simp [isClear] at h

theorem isClear_afterCode {c : Char} (h : c ≠ '/') : (afterCode c).isClear = true := by
  rw [afterCode, if_neg h]
  repeat' split
  all_goals rfl

/-- Without a slash, no comment opens. -/
theorem isClear_step {mode : Mode} {c : Char} (h : mode.isClear = true) (hSlash : c ≠ '/') :
    (mode.step c).isClear = true := by
  cases mode with
  | slash | blockComment | star => simp [isClear] at h
  | code => exact isClear_afterCode hSlash
  | apostrophe =>
      rw [step]
      split
      · rfl
      · exact isClear_afterCode hSlash
  | literal =>
      rw [step]
      split
      · rfl
      · split <;> rfl
  | quotedIdentifier | lineComment =>
      rw [step]
      split <;> rfl

/-- Reading the text from `mode` shows no brace of code and ends in `after`. -/
def Passes (mode : Mode) (text : List Char) (after : Mode) : Prop :=
  Brace.ofText mode 0 text = [] ∧ mode.run text = after

namespace Passes

variable {mode middle after : Mode} {left right text : List Char}

theorem nil (mode : Mode) : Passes mode [] mode :=
  ⟨rfl, rfl⟩

theorem braces (h : Passes mode text after) (start : Nat) :
    Brace.ofText mode start text = [] := by
  rw [← Nat.zero_add start, Brace.ofText_add, h.1, List.map_nil]

theorem append (hLeft : Passes mode left middle) (hRight : Passes middle right after) :
    Passes mode (left ++ right) after := by
  refine ⟨?_, ?_⟩
  · rw [Brace.ofText_append, hLeft.1, hLeft.2, hRight.braces, List.nil_append]
  · rw [run_append, hLeft.2, hRight.2]

theorem cons {c : Char} (hOpens : mode.opens c = false) (hCloses : mode.closes c = false)
    (h : Passes (mode.step c) text after) : Passes mode (c :: text) after := by
  refine ⟨?_, h.2⟩
  rw [Brace.ofText_cons, hOpens, hCloses, h.braces]
  rfl

/-- A text of characters that the mode neither reacts to nor counts is passed over in that mode. -/
theorem of_forall (h : ∀ c ∈ text, mode.step c = mode ∧ mode.opens c = false ∧ mode.closes c = false) :
    Passes mode text mode := by
  induction text with
  | nil => exact nil mode
  | cons c rest ih =>
      obtain ⟨hStep, hOpens, hCloses⟩ := h c List.mem_cons_self
      apply cons hOpens hCloses
      rw [hStep]
      exact ih fun d hd => h d (List.mem_cons_of_mem _ hd)

/-- A text without braces and slashes is passed over, whatever else it holds. -/
theorem exists_of_forall (hMode : mode.isClear = true)
    (h : ∀ c ∈ text, c ≠ '{' ∧ c ≠ '}' ∧ c ≠ '/') :
    ∃ after, Passes mode text after ∧ after.isClear = true := by
  induction text generalizing mode with
  | nil => exact ⟨mode, nil mode, hMode⟩
  | cons c rest ih =>
      obtain ⟨hOpen, hClose, hSlash⟩ := h c List.mem_cons_self
      obtain ⟨after, hRest, hAfter⟩ :=
        ih (isClear_step hMode hSlash) fun d hd => h d (List.mem_cons_of_mem _ hd)
      exact ⟨after, cons (by simp [opens, hOpen]) (by simp [closes, hClose]) hRest, hAfter⟩

end Passes

/-- A character that means nothing to the reader of code. -/
def isPlain (c : Char) : Bool :=
  !(c == '\'' || c == '"' || c == '/' || c == '{' || c == '}')

theorem passes_of_isPlain {text : List Char} (h : ∀ c ∈ text, isPlain c = true) :
    Passes code text code := by
  apply Passes.of_forall
  intro c hc
  have hPlain := h c hc
  simp only [isPlain, Bool.not_eq_true', Bool.or_eq_false_iff, beq_eq_false_iff_ne] at hPlain
  simp [step, afterCode, opens, closes, hPlain]

/-- A quoted name is passed over whatever it holds, quotes and line feeds apart. -/
theorem passes_quoted {name : List Char} (hQuote : '"' ∉ name) (hLine : '\n' ∉ name) :
    Passes code ('"' :: name ++ ['"']) code := by
  have hInside : Passes quotedIdentifier name quotedIdentifier := by
    apply Passes.of_forall
    intro c hc
    have hc1 : c ≠ '"' := fun h => hQuote (h ▸ hc)
    have hc2 : c ≠ '\n' := fun h => hLine (h ▸ hc)
    simp [step, opens, closes, readsCode, hc1, hc2]
  refine Passes.cons (by decide) (by decide) (hInside.append ?_)
  exact ⟨by decide, by decide⟩

theorem isPlain_of_isBlank {c : Char} (h : Text.isBlank c = true) : isPlain c = true := by
  simp only [isPlain, Bool.not_eq_true', Bool.or_eq_false_iff, beq_eq_false_iff_ne]
  refine ⟨⟨⟨⟨?_, ?_⟩, ?_⟩, ?_⟩, ?_⟩ <;>
    · rintro rfl
      exact absurd h (by decide)

theorem isPlain_of_isIdentifierRest {c : Char} (h : Text.isIdentifierRest c = true) :
    isPlain c = true := by
  simp only [isPlain, Bool.not_eq_true', Bool.or_eq_false_iff, beq_eq_false_iff_ne]
  refine ⟨⟨⟨⟨?_, ?_⟩, ?_⟩, ?_⟩, ?_⟩ <;>
    · rintro rfl
      exact absurd h (by decide)

end Mode

namespace Text

/-- Read from code, the text shows no brace of code and leaves no block comment open. -/
structure IsQuiet (text : List Char) : Prop where
  braces : Brace.ofText .code 0 text = []
  comment : (Mode.code.run text).inBlockComment = false

theorem IsQuiet.passes {text : List Char} (h : IsQuiet text) :
    Mode.code.Passes text (Mode.code.run text) :=
  ⟨h.braces, rfl⟩

theorem isQuiet_of_passes {text : List Char} {after : Mode} (h : Mode.code.Passes text after)
    (hAfter : after.inBlockComment = false) : IsQuiet text :=
  ⟨h.1, by rw [h.2, hAfter]⟩

/-- Quiet text stays quiet behind text that leaves nothing open. -/
theorem IsQuiet.of_passes_append {left right : List Char} (hLeft : Mode.code.Passes left .code)
    (hRight : IsQuiet right) : IsQuiet (left ++ right) :=
  isQuiet_of_passes (hLeft.append hRight.passes) hRight.comment

/-- Quiet text stays quiet in front of a character that is no brace and no star. -/
theorem IsQuiet.append_singleton {text : List Char} (h : IsQuiet text) (c : Char) (hOpen : c ≠ '{')
    (hClose : c ≠ '}') (hStar : c ≠ '*') : IsQuiet (text ++ [c]) := by
  have hLast : (Mode.code.run text).Passes [c] ((Mode.code.run text).step c) := by
    apply Mode.Passes.cons
    · simp [Mode.opens, hOpen]
    · simp [Mode.closes, hClose]
    · exact Mode.Passes.nil _
  exact isQuiet_of_passes (h.passes.append hLast) (Mode.inBlockComment_step h.comment hStar)

/-- The line feed behind a quiet line brings the reader back to code. -/
theorem IsQuiet.passes_line {text : List Char} (h : IsQuiet text) :
    Mode.code.Passes (text ++ ['\n']) .code := by
  apply h.passes.append
  have hCloses : (Mode.code.run text).closes '\n' = false := by simp [Mode.closes]
  have hOpens : (Mode.code.run text).opens '\n' = false := by simp [Mode.opens]
  apply Mode.Passes.cons hOpens hCloses
  rw [Mode.step_lineFeed h.comment]
  exact Mode.Passes.nil _

/-- Read from code, the text closes what it opens and nothing else, and leaves nothing else open. -/
structure IsBalanced (text : List Char) : Prop where
  depth : Brace.depthAfter 0 (Brace.ofText .code 0 text) = some 0
  mode : Mode.code.run text = .code

theorem isBalanced_of_passes {text : List Char} (h : Mode.code.Passes text .code) :
    IsBalanced text :=
  ⟨by rw [h.1]; rfl, h.2⟩

theorem IsBalanced.append {left right : List Char} (hLeft : IsBalanced left)
    (hRight : IsBalanced right) : IsBalanced (left ++ right) := by
  refine ⟨?_, ?_⟩
  · rw [Brace.ofText_append, Brace.depthAfter_append, hLeft.depth, hLeft.mode]
    exact (Brace.depthAfter_ofText 0 _ _ right).trans hRight.depth
  · rw [Mode.run_append, hLeft.mode, hRight.mode]

/-- Braces around a balanced text balance each other. -/
theorem IsBalanced.block {body : List Char} (h : IsBalanced body) :
    IsBalanced ('{' :: body ++ ['}']) := by
  have hBody := Brace.depthAfter_ofText 0 .code ('{'.utf8Size) body
  rw [h.depth] at hBody
  refine ⟨?_, ?_⟩
  · rw [List.cons_append, Brace.ofText_cons_of_opens rfl, Brace.ofText_append, h.mode,
      Brace.ofText_cons_of_closes rfl]
    exact Brace.depthAfter_block hBody _ _
  · rw [List.cons_append, Mode.run_cons, Mode.run_append, Mode.step_of_opens rfl, h.mode]
    rfl

/-- A balanced text between braces is the body of the first block behind text that leaves nothing
open. -/
theorem IsBalanced.isFirst {pre body : List Char} (hBody : IsBalanced body)
    (hPre : Mode.code.Passes pre .code) (post : List Char) :
    Block.IsFirst (pre ++ '{' :: body ++ '}' :: post) ⟨pre, body, some post⟩ := by
  apply Block.isFirst_of_balanced
  · rw [hPre.2]
    rfl
  · simp [hPre.1]
  · rw [hBody.mode]
    rfl
  · exact hBody.depth

end Text

end ObjectOutline
