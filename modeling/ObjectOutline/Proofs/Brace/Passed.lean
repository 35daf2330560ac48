import ObjectOutline.Proofs.Brace.Quiet
import ObjectOutline.Proofs.Brace.Surroundings

/-! Text that is passed over. A piece of a text that shows no brace, and behind which the reader is where
code would bring it, has no part in the search for blocks: what is found on both sides of it is found
whatever the piece is. -/
namespace ObjectOutline

/-- A text behind this mode is read as it is read from code. -/
def Mode.ReadsOn (mode : Mode) (text : List Char) : Prop :=
  mode = .code ∨ text = [] ∨ mode.inBlockComment = false ∧ ∃ rest, text = '\n' :: rest

namespace Mode.ReadsOn

variable {mode : Mode} {text left right : List Char}

theorem splitOpen?_eq (h : mode.ReadsOn text) :
    Block.splitOpen? mode text = Block.splitOpen? .code text := by
  rcases h with rfl | rfl | ⟨hMode, rest, rfl⟩
  · rfl
  · rfl
  · rw [Block.splitOpen?, Block.splitOpen?, step_lineFeed hMode, step_lineFeed rfl]
    simp [opens]

theorem splitClose_eq (h : mode.ReadsOn text) (depth : Nat) :
    Block.splitClose mode depth text = Block.splitClose .code depth text := by
  rcases h with rfl | rfl | ⟨hMode, rest, rfl⟩
  · rfl
  · rw [Block.splitClose, Block.splitClose]
  · have hLine := step_lineFeed hMode
    have hCode : Mode.code.step '\n' = .code := rfl
    rw [Block.splitClose.eq_def, Block.splitClose.eq_def]
    simp [opens, closes, hLine, hCode]

theorem of_append (h : mode.ReadsOn (left ++ right)) : mode.ReadsOn left := by
  rcases h with hCode | hNil | ⟨hMode, rest, hLine⟩
  · exact Or.inl hCode
  · exact Or.inr (Or.inl (List.append_eq_nil_iff.mp hNil).1)
  · cases left with
    | nil => exact Or.inr (Or.inl rfl)
    | cons c left =>
        obtain ⟨rfl, -⟩ := List.cons.inj hLine
        exact Or.inr (Or.inr ⟨hMode, left, rfl⟩)

end Mode.ReadsOn

/-- Between the two texts the piece shows no brace, and what follows it is read as from code. -/
structure Text.Passed (before piece after : List Char) : Prop where
  braces : Brace.ofText (Mode.code.run before) 0 piece = []
  resumes : (Mode.code.run (before ++ piece)).ReadsOn after

namespace Block

/-- The part `inside` of a text ends with the block that it stands in, `depth` blocks further out, and
`rest` is what follows that block. -/
structure IsInside (depth : Nat) (text inside : List Char) (rest : Option (List Char)) : Prop where
  split : splitClose .code depth text = (inside, rest)
  text_eq : text = inside ∧ rest = none ∨ ∃ post, text = inside ++ '}' :: post ∧ rest = some post
  nesting : (Brace.depthAfter depth (Brace.ofText .code 0 inside)).isSome = true

theorem exists_isInside (depth : Nat) (text : List Char) :
    ∃ inside rest, IsInside depth text inside rest := by
  rcases isSome_depthAfter_or_exists .code depth 0 text with hOpen | ⟨inside, post, rfl, hCode, hDepth⟩
  · exact ⟨text, none, splitClose_of_isSome hOpen, Or.inl ⟨rfl, rfl⟩, hOpen⟩
  · exact ⟨inside, some post, splitClose_of_closes hCode hDepth post, Or.inr ⟨post, rfl, rfl⟩,
      by rw [hDepth]; rfl⟩

theorem IsInside.readsOn {depth : Nat} {text inside : List Char} {rest : Option (List Char)}
    {mode : Mode} (h : IsInside depth text inside rest) (hMode : mode.ReadsOn text) :
    mode.ReadsOn inside := by
  rcases h.text_eq with ⟨rfl, -⟩ | ⟨post, rfl, -⟩
  · exact hMode
  · exact hMode.of_append

theorem exists_eq_pre_append {text : List Char} {block : Block} (h : find? text = some block) :
    ∃ inner, text = block.pre ++ '{' :: inner := by
  rw [← text_of_find? h, Block.text]
  split
  · exact ⟨_, List.append_assoc _ _ _⟩
  · exact ⟨_, rfl⟩

/-- Nothing can be closed inside before it is opened there. -/
theorem IsInside.braces_pre {text inside : List Char} {rest : Option (List Char)} {next : Block}
    (h : IsInside 0 text inside rest) (hNext : find? inside = some next) :
    Brace.ofText .code 0 next.pre = [] := by
  have hFirst := (find?_eq_some_iff inside next).mp hNext
  obtain ⟨inner, hText⟩ := exists_eq_pre_append hNext
  have hNesting := h.nesting
  rw [hText, Brace.ofText_append, Brace.depthAfter_append] at hNesting
  apply Brace.eq_nil_of_isSome_depthAfter hFirst.preBraces
  cases hDepth : Brace.depthAfter 0 (Brace.ofText .code 0 next.pre) with
  | none => simp [hDepth] at hNesting
  | some depth => rfl

section

variable {before piece after post : List Char} {block : Block}

/-- Behind text without a block, the first block is that of the text behind the piece. -/
theorem find?_of_passed (hNone : find? before = none) (h : Text.Passed before piece after) :
    find? (before ++ (piece ++ after)) =
      (find? after).map fun block => { block with pre := before ++ (piece ++ block.pre) } := by
  have hQuiet : ∀ brace ∈ Brace.ofText .code 0 (before ++ piece), brace.isOpening = false := by
    intro brace hBrace
    have hPiece : Brace.ofText (Mode.code.run before) (0 + Text.byteLength before) piece = [] :=
      Mode.Passes.braces ⟨h.braces, rfl⟩ _
    rw [Brace.ofText_append, hPiece, List.append_nil] at hBrace
    exact (find?_eq_none_iff before).mp hNone brace hBrace
  rw [← List.append_assoc, find?, find?, splitOpen?_append hQuiet, h.resumes.splitOpen?_eq]
  cases splitOpen? .code after with
  | none => rfl
  | some parts => simp

/-- Behind an unclosed block, the piece lies in the block, which ends where it does whatever the piece
is. -/
theorem IsFirst.find?_of_passed (hFirst : IsFirst before block) (hPost : block.post = none)
    {depth : Nat} (hDepth : Brace.depthAfter 0 (Brace.ofText .code 0 block.body) = some depth)
    {inside : List Char} {rest : Option (List Char)} (hInside : IsInside depth after inside rest)
    (h : Text.Passed before piece after) :
    find? (before ++ (piece ++ after)) =
      some ⟨block.pre, block.body ++ (piece ++ inside), rest⟩ := by
  have hText : before ++ (piece ++ after) =
      block.pre ++ '{' :: ((block.body ++ piece) ++ after) := by
    rw [hFirst.eq_of_unclosed hPost]
    simp
  have hOpen : splitOpen? .code (before ++ (piece ++ after)) =
      some (block.pre, (block.body ++ piece) ++ after) :=
    (splitOpen?_eq_some_iff .code 0 _ _ _).mpr ⟨hText, hFirst.preMode, hFirst.preBraces⟩
  have hMode : Mode.code.run (block.body ++ piece) = Mode.code.run (before ++ piece) := by
    rw [Mode.run_append, Mode.run_append, hFirst.run_of_unclosed hPost]
  have hPiece : Brace.ofText (Mode.code.run block.body) (0 + Text.byteLength block.body) piece = [] := by
    rw [← hFirst.run_of_unclosed hPost]
    exact Mode.Passes.braces ⟨h.braces, rfl⟩ _
  have hBoth : Brace.depthAfter 0 (Brace.ofText .code 0 (block.body ++ piece)) = some depth := by
    rw [Brace.ofText_append, hPiece, List.append_nil, hDepth]
  have hClose := splitClose_append hBoth after
  rw [hMode, h.resumes.splitClose_eq, hInside.split] at hClose
  rw [find?, hOpen]
  simp only [hClose]
  rw [List.append_assoc]

theorem IsFirst.passed_post (hFirst : IsFirst before block) (hPost : block.post = some post)
    (h : Text.Passed before piece after) : Text.Passed post piece after where
  braces := by rw [← hFirst.run_of_closed hPost, h.braces]
  resumes := by
    have hResumes := h.resumes
    rwa [Mode.run_append, hFirst.run_of_closed hPost, ← Mode.run_append] at hResumes

theorem IsFirst.passed_body (hFirst : IsFirst before block) (hPost : block.post = none)
    {depth : Nat} {inside : List Char} {rest : Option (List Char)}
    (hInside : IsInside depth after inside rest) (h : Text.Passed before piece after) :
    Text.Passed block.body piece inside where
  braces := by rw [← hFirst.run_of_unclosed hPost, h.braces]
  resumes := by
    have hResumes := hInside.readsOn h.resumes
    rwa [Mode.run_append, hFirst.run_of_unclosed hPost, ← Mode.run_append] at hResumes

end

/-- The same block with more text in front of it. -/
def behind (lead : List Char) (block : Block) : Block :=
  { block with pre := lead ++ block.pre }

section

variable (lead : List Char) (block : Block)

theorem openOffset_behind :
    (block.behind lead).openOffset = block.openOffset + Text.byteLength lead := by
  rw [openOffset, behind, Text.byteLength_append, Nat.add_comm]
  rfl

theorem bodyOffset_behind :
    (block.behind lead).bodyOffset = block.bodyOffset + Text.byteLength lead := by
  rw [bodyOffset, openOffset_behind, bodyOffset, Nat.add_right_comm]

theorem closeOffset_behind :
    (block.behind lead).closeOffset = block.closeOffset + Text.byteLength lead := by
  rw [closeOffset, bodyOffset_behind, closeOffset, Nat.add_right_comm]
  rfl

theorem closeOffset?_behind :
    (block.behind lead).closeOffset? = block.closeOffset?.map (· + Text.byteLength lead) := by
  have hClose := closeOffset_behind lead block
  rw [closeOffset?, closeOffset?, Option.map_map]
  exact congrArg (fun offset => block.post.map fun _ => offset) hClose

end

section

variable {lead : List Char} (hLead : Mode.code.Passes lead .code)
include hLead

/-- Text that leaves nothing open may stand in front of any text: what is found is the same. -/
theorem find?_append_of_passes (text : List Char) :
    find? (lead ++ text) = (find? text).map (behind lead) := by
  have hPassed : Text.Passed [] lead text := ⟨hLead.1, Or.inl hLead.2⟩
  exact find?_of_passed rfl hPassed

theorem IsFirst.behind {text : List Char} {block : Block} (h : IsFirst text block) :
    IsFirst (lead ++ text) (block.behind lead) := by
  rw [← find?_eq_some_iff] at h ⊢
  rw [find?_append_of_passes hLead, h, Option.map_some]

end

end Block
end ObjectOutline
