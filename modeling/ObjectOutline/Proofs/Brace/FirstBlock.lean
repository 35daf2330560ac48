import ObjectOutline.Brace.Block
import ObjectOutline.Proofs.Brace.Stack

/-! The first block of a text, said without the search for it: nothing opens before its opening brace,
and its closing brace is the one that balances it. The search finds exactly this block, so a text can
be taken apart at its first block, and a text put together around a block is found to have it. -/
namespace ObjectOutline.Block

theorem splitOpen?_eq_none_iff (mode : Mode) (start : Nat) (text : List Char) :
    splitOpen? mode text = none ↔
      ∀ brace ∈ Brace.ofText mode start text, brace.isOpening = false := by
  induction text generalizing mode start with
  | nil => simp [splitOpen?, Brace.ofText]
  | cons c rest ih =>
      rw [splitOpen?]
      split
      · next hOpens =>
        rw [Brace.ofText_cons_of_opens hOpens]
        simp [Brace.isOpening]
      · next hOpens =>
        have hRest := ih (mode.step c) (start + c.utf8Size)
        have hHere : ∀ brace ∈ (if mode.closes c then [Brace.closing start] else []),
            brace.isOpening = false := by
          intro brace hBrace
          split at hBrace <;> simp_all [Brace.isOpening]
        rw [Brace.ofText_cons, if_neg hOpens, List.forall_mem_append, ← hRest]
        split
        · next hSome => simp [hSome]
        · next hNone => exact ⟨fun _ => ⟨hHere, hNone⟩, fun _ => rfl⟩

theorem splitOpen?_append {mode : Mode} {start : Nat} {pre : List Char}
    (h : ∀ brace ∈ Brace.ofText mode start pre, brace.isOpening = false) (rest : List Char) :
    splitOpen? mode (pre ++ rest) =
      (splitOpen? (mode.run pre) rest).map fun (gap, inner) => (pre ++ gap, inner) := by
  induction pre generalizing mode start with
  | nil => simp
  | cons c pre ih =>
      have hOpens : ¬mode.opens c = true := by
        intro hOpens
        rw [Brace.ofText_cons_of_opens hOpens] at h
        simp [Brace.isOpening] at h
      rw [Brace.ofText_cons, List.forall_mem_append] at h
      rw [List.cons_append, splitOpen?, if_neg hOpens, ih h.2, Mode.run_cons]
      cases splitOpen? ((mode.step c).run pre) rest with
      | none => rfl
      | some parts => rfl

/-- The search for an opening brace stops at the first one. -/
theorem splitOpen?_eq_some_iff (mode : Mode) (start : Nat) (text pre inner : List Char) :
    splitOpen? mode text = some (pre, inner) ↔
      text = pre ++ '{' :: inner ∧ (mode.run pre).readsCode = true ∧
        ∀ brace ∈ Brace.ofText mode start pre, brace.isOpening = false := by
  constructor
  · intro h
    induction text generalizing mode start pre with
    | nil => simp [splitOpen?] at h
    | cons c rest ih =>
        rw [splitOpen?] at h
        split at h
        · next hOpens =>
          simp only [Option.some.injEq, Prod.mk.injEq] at h
          obtain ⟨rfl, rfl⟩ := h
          obtain ⟨hCode, rfl⟩ := Mode.opens_iff.mp hOpens
          exact ⟨rfl, hCode, by simp [Brace.ofText]⟩
        · next hOpens =>
          split at h
          · next pre' inner' hRest =>
            simp only [Option.some.injEq, Prod.mk.injEq] at h
            obtain ⟨rfl, rfl⟩ := h
            obtain ⟨hText, hCode, hPre⟩ := ih _ (start + c.utf8Size) _ hRest
            refine ⟨by rw [hText, List.cons_append], hCode, ?_⟩
            rw [Brace.ofText_cons, if_neg hOpens, List.forall_mem_append]
            refine ⟨?_, hPre⟩
            intro brace hBrace
            split at hBrace <;> simp_all [Brace.isOpening]
          · simp at h
  · rintro ⟨rfl, hCode, hPre⟩
    have hOpens : (mode.run pre).opens '{' = true := Mode.opens_iff.mpr ⟨hCode, rfl⟩
    rw [splitOpen?_append hPre, splitOpen?, if_pos hOpens]
    simp

/-- A character that does not close the block is part of the body. -/
theorem splitClose_cons {mode : Mode} {depth after start : Nat} {c : Char}
    (h : Brace.depthAfter depth (Brace.ofText mode start [c]) = some after) (rest : List Char) :
    splitClose mode depth (c :: rest) =
      (c :: (splitClose (mode.step c) after rest).1, (splitClose (mode.step c) after rest).2) := by
  rw [splitClose.eq_def]
  by_cases hCloses : mode.closes c = true
  · rw [Brace.ofText_cons_of_closes hCloses] at h
    cases depth with
    | zero => simp [Brace.depthAfter] at h
    | succ outer =>
        simp only [Brace.ofText, Brace.depthAfter, Option.some.injEq] at h
        simp [hCloses, h]
  · by_cases hOpens : mode.opens c = true
    · rw [Brace.ofText_cons_of_opens hOpens] at h
      simp only [Brace.ofText, Brace.depthAfter, Option.some.injEq] at h
      simp [hCloses, hOpens, h]
    · simp only [Brace.ofText, hOpens, hCloses, Bool.false_eq_true, if_false, Brace.depthAfter,
        Option.some.injEq] at h
      simp [hCloses, hOpens, h]

/-- A character that closes more than is open closes the block. -/
theorem splitClose_cons_of_eq_none {mode : Mode} {depth start : Nat} {c : Char}
    (h : Brace.depthAfter depth (Brace.ofText mode start [c]) = none) (rest : List Char) :
    mode.closes c = true ∧ splitClose mode depth (c :: rest) = ([], some rest) := by
  by_cases hCloses : mode.closes c = true
  · rw [Brace.ofText_cons_of_closes hCloses] at h
    cases depth with
    | zero => exact ⟨hCloses, by simp [splitClose, hCloses]⟩
    | succ outer => simp [Brace.ofText, Brace.depthAfter] at h
  · by_cases hOpens : mode.opens c = true <;>
      simp [Brace.ofText, hOpens, hCloses, Brace.depthAfter] at h

/-- A part of a body that never closes more than is open is passed over as a whole. -/
theorem splitClose_append {mode : Mode} {depth after start : Nat} {body : List Char}
    (h : Brace.depthAfter depth (Brace.ofText mode start body) = some after)
    (rest : List Char) :
    splitClose mode depth (body ++ rest) =
      (body ++ (splitClose (mode.run body) after rest).1,
        (splitClose (mode.run body) after rest).2) := by
  induction body generalizing mode depth start with
  | nil =>
      have hDepth : depth = after := Option.some.inj h
      rw [hDepth]
      rfl
  | cons c body ih =>
      rw [← List.singleton_append, Brace.ofText_append, Brace.depthAfter_append] at h
      obtain ⟨next, hHere, hLater⟩ := Option.bind_eq_some_iff.mp h
      rw [List.cons_append, splitClose_cons hHere, Mode.run_cons]
      exact congrArg (fun parts : List Char × Option (List Char) => (c :: parts.1, parts.2))
        (ih hLater)

/-- A text closes more than is open at some brace, or at none. -/
theorem isSome_depthAfter_or_exists (mode : Mode) (depth start : Nat) (text : List Char) :
    (Brace.depthAfter depth (Brace.ofText mode start text)).isSome = true ∨
      ∃ body post, text = body ++ '}' :: post ∧ (mode.run body).readsCode = true ∧
        Brace.depthAfter depth (Brace.ofText mode start body) = some 0 := by
  induction text generalizing mode depth start with
  | nil => exact Or.inl rfl
  | cons c rest ih =>
      cases hHere : Brace.depthAfter depth (Brace.ofText mode start [c]) with
      | none =>
          obtain ⟨hCode, rfl⟩ := Mode.closes_iff.mp (splitClose_cons_of_eq_none hHere rest).1
          cases depth with
          | zero => exact Or.inr ⟨[], rest, rfl, hCode, rfl⟩
          | succ outer =>
              rw [Brace.ofText_cons_of_closes (Mode.closes_iff.mpr ⟨hCode, rfl⟩)] at hHere
              simp [Brace.ofText, Brace.depthAfter] at hHere
      | some next =>
          have hSplit (later : List Char) :
              Brace.depthAfter depth (Brace.ofText mode start (c :: later)) =
                Brace.depthAfter next
                  (Brace.ofText (mode.step c) (start + Text.byteLength [c]) later) := by
            rw [← List.singleton_append, Brace.ofText_append, Brace.depthAfter_append, hHere]
            rfl
          rcases ih (mode.step c) next (start + Text.byteLength [c]) with
            hOpen | ⟨body, post, rfl, hCode, hDepth⟩
          · exact Or.inl (by rw [hSplit, hOpen])
          · exact Or.inr ⟨c :: body, post, rfl, hCode, by rw [hSplit, hDepth]⟩

theorem splitClose_of_isSome {mode : Mode} {depth start : Nat} {text : List Char}
    (h : (Brace.depthAfter depth (Brace.ofText mode start text)).isSome = true) :
    splitClose mode depth text = (text, none) := by
  obtain ⟨after, hDepth⟩ := Option.isSome_iff_exists.mp h
  simpa [splitClose] using splitClose_append hDepth []

theorem splitClose_of_closes {mode : Mode} {depth start : Nat} {body : List Char}
    (hCode : (mode.run body).readsCode = true)
    (hDepth : Brace.depthAfter depth (Brace.ofText mode start body) = some 0)
    (post : List Char) : splitClose mode depth (body ++ '}' :: post) = (body, some post) := by
  have hCloses : (mode.run body).closes '}' = true := Mode.closes_iff.mpr ⟨hCode, rfl⟩
  rw [splitClose_append hDepth]
  simp [splitClose, hCloses]

theorem isClosed_of_post {block : Block} {post : List Char} (h : block.post = some post) :
    block.isClosed = true := by
  rw [isClosed, h]
  rfl

theorem not_isClosed_of_post {block : Block} (h : block.post = none) : block.isClosed = false := by
  rw [isClosed, h]
  rfl

/-- The block is the first one of the text: nothing opens before it, and it ends with the brace that
balances the first one, or with the text. -/
structure IsFirst (text : List Char) (block : Block) : Prop where
  text_eq : block.text = text
  preMode : (Mode.code.run block.pre).readsCode = true
  preBraces : ∀ brace ∈ Brace.ofText .code 0 block.pre, brace.isOpening = false
  bodyMode : block.isClosed = true → (Mode.code.run block.body).readsCode = true
  bodyBraces : block.isClosed = true → Brace.depthAfter 0 (Brace.ofText .code 0 block.body) = some 0
  openBraces : (Brace.depthAfter 0 (Brace.ofText .code 0 block.body)).isSome = true

/-- A text is put together around its first block, when that is closed. -/
theorem isFirst_of_balanced {pre body : List Char} (hPreMode : (Mode.code.run pre).readsCode = true)
    (hPre : ∀ brace ∈ Brace.ofText .code 0 pre, brace.isOpening = false)
    (hBodyMode : (Mode.code.run body).readsCode = true)
    (hBody : Brace.depthAfter 0 (Brace.ofText .code 0 body) = some 0) (post : List Char) :
    IsFirst (pre ++ '{' :: body ++ '}' :: post) ⟨pre, body, some post⟩ :=
  ⟨rfl, hPreMode, hPre, fun _ => hBodyMode, fun _ => hBody, by rw [hBody]; rfl⟩

/-- The search finds the first block and nothing else. -/
theorem find?_eq_some_iff (text : List Char) (block : Block) :
    find? text = some block ↔ IsFirst text block := by
  constructor
  · intro h
    have hText := text_of_find? h
    rw [find?] at h
    split at h
    · simp at h
    · next pre inner hOpen =>
      obtain ⟨-, hPreMode, hPre⟩ := (splitOpen?_eq_some_iff .code 0 _ _ _).mp hOpen
      rcases isSome_depthAfter_or_exists .code 0 0 inner with
        hSome | ⟨body, post, rfl, hCode, hDepth⟩
      · rw [splitClose_of_isSome hSome] at h
        obtain rfl := Option.some.inj h
        exact ⟨hText, hPreMode, hPre, by simp [isClosed], by simp [isClosed], hSome⟩
      · rw [splitClose_of_closes hCode hDepth] at h
        obtain rfl := Option.some.inj h
        rw [← hText]
        exact isFirst_of_balanced hPreMode hPre hCode hDepth post
  · rintro ⟨hText, hPreMode, hPre, hBodyMode, hBody, hSome⟩
    obtain ⟨pre, body, post⟩ := block
    have hOpen (inner : List Char) : splitOpen? .code (pre ++ '{' :: inner) = some (pre, inner) :=
      (splitOpen?_eq_some_iff .code 0 _ _ _).mpr ⟨rfl, hPreMode, hPre⟩
    cases post with
    | none =>
        obtain rfl : pre ++ '{' :: body = text := hText
        rw [find?, hOpen]
        simp only [splitClose_of_isSome hSome]
    | some post =>
        obtain rfl : pre ++ '{' :: body ++ '}' :: post = text := hText
        rw [find?, List.append_assoc, List.cons_append, hOpen]
        simp only [splitClose_of_closes (hBodyMode rfl) (hBody rfl)]

theorem find?_eq_none_iff (text : List Char) :
    find? text = none ↔ ∀ brace ∈ Brace.ofText .code 0 text, brace.isOpening = false := by
  rw [← splitOpen?_eq_none_iff, find?]
  split <;> simp_all

namespace IsFirst

variable {text post : List Char} {block : Block}

theorem eq_of_closed (h : IsFirst text block) (hPost : block.post = some post) :
    text = block.pre ++ '{' :: block.body ++ '}' :: post := by
  rw [← h.text_eq, Block.text, hPost]

theorem eq_of_unclosed (h : IsFirst text block) (hPost : block.post = none) :
    text = block.pre ++ '{' :: block.body := by
  rw [← h.text_eq, Block.text, hPost]

/-- The text starts with the block up to the end of its body. -/
theorem body_prefix (h : IsFirst text block) : block.pre ++ '{' :: block.body <+: text := by
  cases hPost : block.post with
  | none => exact ⟨[], by rw [List.append_nil, ← h.eq_of_unclosed hPost]⟩
  | some post =>
      rw [h.eq_of_closed hPost]
      exact List.prefix_append _ _

/-- More text behind a closed block lengthens only the rest. -/
theorem append_of_closed (h : IsFirst text block) (hPost : block.post = some post)
    (more : List Char) : IsFirst (text ++ more) { block with post := some (post ++ more) } where
  text_eq := by
    rw [h.eq_of_closed hPost, Block.text]
    simp
  preMode := h.preMode
  preBraces := h.preBraces
  bodyMode := fun _ => h.bodyMode (isClosed_of_post hPost)
  bodyBraces := fun _ => h.bodyBraces (isClosed_of_post hPost)
  openBraces := h.openBraces

/-- More text behind an unclosed block lengthens its body, and may close it. Where the body then ends
depends only on the mode and the depth in which the part before `after` leaves it. -/
theorem exists_append_of_unclosed (h : IsFirst text block) (hPost : block.post = none) (mode : Mode)
    (depth : Nat) (after : List Char) :
    ∃ inside rest, ∀ more, Mode.code.run (block.body ++ more) = mode →
      Brace.depthAfter 0 (Brace.ofText .code 0 (block.body ++ more)) = some depth →
        IsFirst (text ++ (more ++ after)) ⟨block.pre, block.body ++ (more ++ inside), rest⟩ := by
  have hText := h.eq_of_unclosed hPost
  have hInside {more : List Char} (hMode : Mode.code.run (block.body ++ more) = mode)
      (hDepth : Brace.depthAfter 0 (Brace.ofText .code 0 (block.body ++ more)) = some depth)
      (inside : List Char) :
      Brace.depthAfter 0 (Brace.ofText .code 0 (block.body ++ (more ++ inside))) =
        Brace.depthAfter depth (Brace.ofText mode 0 inside) := by
    rw [← List.append_assoc, Brace.ofText_append, Brace.depthAfter_append, hDepth,
      Option.bind_some, hMode, Brace.depthAfter_ofText]
  rcases isSome_depthAfter_or_exists mode depth 0 after with
    hOpen | ⟨inside, rest, rfl, hCode, hClosed⟩
  · refine ⟨after, none, fun more hMode hDepth => ?_⟩
    refine ⟨?_, h.preMode, h.preBraces, by simp [isClosed], by simp [isClosed], ?_⟩
    · simp [Block.text, hText]
    · rw [hInside hMode hDepth, hOpen]
  · refine ⟨inside, some rest, fun more hMode hDepth => ?_⟩
    refine ⟨?_, h.preMode, h.preBraces, fun _ => ?_, fun _ => ?_, ?_⟩
    · simp [Block.text, hText]
    · rw [← List.append_assoc, Mode.run_append, hMode, hCode]
    · rw [hInside hMode hDepth, hClosed]
    · rw [hInside hMode hDepth, hClosed]
      rfl

theorem append_of_unclosed (h : IsFirst text block) (hPost : block.post = none)
    (more : List Char) :
    ∃ inside rest, IsFirst (text ++ more) ⟨block.pre, block.body ++ inside, rest⟩ := by
  obtain ⟨depth, hDepth⟩ := Option.isSome_iff_exists.mp h.openBraces
  obtain ⟨inside, rest, hMore⟩ := h.exists_append_of_unclosed hPost _ depth more
  exact ⟨inside, rest, hMore [] rfl (by rwa [List.append_nil])⟩

end IsFirst

/-- A statement holds of every text when it holds of texts without a block, passes from the body and
the rest of a text to the text around a closed block, and from the body alone to the text around an
unclosed block. -/
theorem induction {motive : List Char → Prop}
    (none : ∀ text, find? text = none → motive text)
    (closed : ∀ text block post, IsFirst text block → block.post = some post →
      motive block.body → motive post → motive text)
    (unclosed : ∀ text block, IsFirst text block → block.post = .none →
      motive block.body → motive text)
    (text : List Char) : motive text := by
  induction hLength : text.length using Nat.strongRecOn generalizing text with
  | ind length ih =>
      subst hLength
      cases hFind : find? text with
      | none => exact none text hFind
      | some block =>
          have hFirst := (find?_eq_some_iff text block).mp hFind
          have hBody : motive block.body := ih _ (body_length_lt hFind) _ rfl
          cases hPost : block.post with
          | none => exact unclosed text block hFirst hPost hBody
          | some post =>
              exact closed text block post hFirst hPost hBody
                (ih _ (post_length_lt hFind hPost) _ rfl)

end ObjectOutline.Block
