import ObjectOutline.Brace.Mode
import ObjectOutline.Text.Bytes

/-! The first brace block of a text. Both braces are read as code from the start of the text, and
the closing brace is the one that balances the opening brace. Closing braces before the first
opening brace are passed over. A block that is never closed runs to the end of the text. -/
namespace ObjectOutline

/-- A text around its first block. `post` is absent when the block is never closed. -/
structure Block where
  pre : List Char
  body : List Char
  post : Option (List Char)
  deriving DecidableEq, Repr

namespace Block

/-- The text before the first opening brace of code, and the text after it. -/
def splitOpen? (mode : Mode) : List Char → Option (List Char × List Char)
  | [] => none
  | c :: rest =>
    if mode.opens c then some ([], rest)
    else match splitOpen? (mode.step c) rest with
      | some (pre, inner) => some (c :: pre, inner)
      | none => none

/-- The text before the closing brace of code that leaves `depth` open blocks and closes one more,
and the text after it. Without such a brace everything comes before it. -/
def splitClose (mode : Mode) (depth : Nat) : List Char → List Char × Option (List Char)
  | [] => ([], none)
  | c :: rest =>
    if mode.closes c then
      match depth with
      | 0 => ([], some rest)
      | outer + 1 =>
        let (body, post) := splitClose (mode.step c) outer rest
        (c :: body, post)
    else
      let (body, post) :=
        splitClose (mode.step c) (if mode.opens c then depth + 1 else depth) rest
      (c :: body, post)

/-- The first block of a text, read from its start. -/
def find? (text : List Char) : Option Block :=
  match splitOpen? .code text with
  | none => none
  | some (pre, inner) =>
    let (body, post) := splitClose .code 0 inner
    some ⟨pre, body, post⟩

/-- The block has its closing brace. -/
def isClosed (block : Block) : Bool :=
  block.post.isSome

/-- The byte offset of the opening brace. -/
def openOffset (block : Block) : Nat :=
  Text.byteLength block.pre

/-- The byte offset of the body. -/
def bodyOffset (block : Block) : Nat :=
  block.openOffset + 1

/-- The byte offset of the closing brace. -/
def closeOffset? (block : Block) : Option Nat :=
  block.post.map fun _ => block.bodyOffset + Text.byteLength block.body

/-- The text that the block was found in. -/
def text (block : Block) : List Char :=
  match block.post with
  | some post => block.pre ++ '{' :: block.body ++ '}' :: post
  | none => block.pre ++ '{' :: block.body

/-- A body and what follows its closing brace, put together again. -/
def joinClose : List Char × Option (List Char) → List Char
  | (body, some post) => body ++ '}' :: post
  | (body, none) => body

theorem splitOpen?_eq {mode : Mode} {text pre inner : List Char}
    (h : splitOpen? mode text = some (pre, inner)) : text = pre ++ '{' :: inner := by
  induction text generalizing mode pre with
  | nil => simp [splitOpen?] at h
  | cons c rest ih =>
    rw [splitOpen?] at h
    split at h
    · next hOpen =>
      simp only [Option.some.injEq, Prod.mk.injEq] at h
      obtain ⟨rfl, rfl⟩ := h
      simp [Mode.eq_of_opens hOpen]
    · split at h
      · next pre' inner' hRest =>
        simp only [Option.some.injEq, Prod.mk.injEq] at h
        obtain ⟨rfl, rfl⟩ := h
        simp [ih hRest]
      · simp at h

theorem joinClose_cons (c : Char) (parts : List Char × Option (List Char)) :
    joinClose (c :: parts.1, parts.2) = c :: joinClose parts := by
  rcases parts with ⟨body, _ | post⟩ <;> rfl

theorem joinClose_splitClose (mode : Mode) (depth : Nat) (text : List Char) :
    joinClose (splitClose mode depth text) = text := by
  fun_induction splitClose mode depth text with
  | case1 => rfl
  | case2 mode c rest hClose => simp [joinClose, Mode.eq_of_closes hClose]
  | case3 mode c rest hClose outer body post hRest ih =>
    rw [hRest] at ih
    exact (joinClose_cons c (body, post)).trans (congrArg (c :: ·) ih)
  | case4 mode depth c rest hClose body post hRest ih =>
    rw [hRest] at ih
    exact (joinClose_cons c (body, post)).trans (congrArg (c :: ·) ih)

/-- Nothing is lost: the parts of the first block make up the text. -/
theorem text_of_find? {text : List Char} {block : Block} (h : find? text = some block) :
    block.text = text := by
  rw [find?] at h
  split at h
  · simp at h
  · next pre inner hOpen =>
    have hInner := joinClose_splitClose .code 0 inner
    rcases hParts : splitClose .code 0 inner with ⟨body, _ | post⟩ <;>
      · simp only [hParts, Option.some.injEq] at h
        subst h
        simp only [hParts, joinClose] at hInner
        simp [Block.text, splitOpen?_eq hOpen, ← hInner]

theorem body_length_lt {text : List Char} {block : Block} (h : find? text = some block) :
    block.body.length < text.length := by
  rw [← text_of_find? h, Block.text]
  split <;> simp <;> omega

theorem post_length_lt {text post : List Char} {block : Block} (h : find? text = some block)
    (hPost : block.post = some post) : post.length < text.length := by
  rw [← text_of_find? h, Block.text, hPost]
  simp
  omega

end Block
end ObjectOutline
