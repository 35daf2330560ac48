import ObjectOutline.Proofs.Brace.Unclosed
import ObjectOutline.Proofs.Region.Placement

/-! The limit on nesting against no limit. Cutting every region of the last level off from what is in it
gives what the limit leaves, unless the source was cut off at that level behind a pair: then the limit
leaves nothing in the block in which the source was cut off, and such a block is left out. -/
namespace ObjectOutline

namespace Brace

/-- Behind the brace that a run leaves open at `level`, if there is one, the run completes no pair. -/
def NoPairBehind (level : Nat) (braces : List Brace) : Prop :=
  ∀ o, (stackAfter [] braces).reverse[level]? = some o → ∀ pair ∈ pairs [] braces, pair.1 < o

theorem noPairBehind_of_stackAfter {level : Nat} {braces : List Brace}
    (h : stackAfter [] braces = []) : NoPairBehind level braces := by
  intro o ho
  rw [h] at ho
  simp at ho

end Brace

namespace Block.IsFirst

variable {text post : List Char} {block : Block}

theorem pairs_body (h : IsFirst text block) (stack : List Nat) (start : Nat) :
    Brace.pairs stack (Brace.ofText .code start block.body) =
      Brace.pairs [] (Brace.ofText .code start block.body) :=
  Brace.pairs_append_stack [] stack (h.isSome_depthAfter_body start)

/-- A closed block stands before all that is left open behind it. -/
theorem noPairBehind_of_closed (h : IsFirst text block) (hPost : block.post = some post)
    (level base : Nat) :
    Brace.NoPairBehind level (Brace.ofText .code base text) ↔
      Brace.NoPairBehind level (Brace.ofText .code (base + block.closeOffset + 1) post) := by
  rw [Brace.NoPairBehind, Brace.NoPairBehind, h.stackAfter_of_closed hPost,
    h.pairs_of_closed hPost (Brace.keeps_nil _)]
  have hOrder := Brace.inOrder_ofText .code (base + block.closeOffset + 1) post
  refine forall_congr' fun o => imp_congr_right fun ho => ?_
  have hMem : o ∈ Brace.stackAfter [] (Brace.ofText .code (base + block.closeOffset + 1) post) :=
    List.mem_reverse.mp (List.mem_of_getElem? ho)
  have hOpening := ((hOrder.mem_stackAfter_iff o).mp hMem).1.resolve_left List.not_mem_nil
  have hBehind := (Brace.offset_bounds hOpening).1
  simp only [Brace.offset] at hBehind
  constructor
  · intro hAll pair hPair
    exact hAll pair (List.mem_append_right _ (List.mem_cons_of_mem _ hPair))
  · intro hLater pair hPair
    rcases List.mem_append.mp hPair with hInner | hRest
    · have hBounds := (h.keeps_body _ _).offset_bounds hInner
      simp only [closeOffset] at hBehind
      omega
    · rcases List.mem_cons.mp hRest with rfl | hRest
      · simp only [closeOffset, bodyOffset] at hBehind ⊢
        omega
      · exact hLater pair hRest

theorem reverse_stackAfter_of_unclosed (h : IsFirst text block) (hPost : block.post = none)
    (base : Nat) :
    (Brace.stackAfter [] (Brace.ofText .code base text)).reverse =
      (base + block.openOffset) ::
        (Brace.stackAfter []
          (Brace.ofText .code (base + block.bodyOffset) block.body)).reverse := by
  rw [h.stackAfter_of_unclosed hPost, List.reverse_append]
  rfl

/-- All pairs in an unclosed block stand behind its brace. -/
theorem noPairBehind_zero_of_unclosed (h : IsFirst text block) (hPost : block.post = none)
    (base : Nat) :
    Brace.NoPairBehind 0 (Brace.ofText .code base text) ↔
      Brace.pairs [] (Brace.ofText .code (base + block.bodyOffset) block.body) = [] := by
  rw [Brace.NoPairBehind, h.reverse_stackAfter_of_unclosed hPost,
    h.pairs_of_unclosed hPost (Brace.keeps_nil _), h.pairs_body]
  constructor
  · intro hNone
    apply List.eq_nil_iff_forall_not_mem.mpr
    intro pair hPair
    have hBefore := hNone _ rfl pair hPair
    have hBounds := (Brace.keeps_nil _).offset_bounds hPair
    simp only [bodyOffset] at hBounds
    omega
  · intro hNone o _ pair hPair
    simp [hNone] at hPair

theorem noPairBehind_succ_of_unclosed (h : IsFirst text block) (hPost : block.post = none)
    (level base : Nat) :
    Brace.NoPairBehind (level + 1) (Brace.ofText .code base text) ↔
      Brace.NoPairBehind level (Brace.ofText .code (base + block.bodyOffset) block.body) := by
  rw [Brace.NoPairBehind, h.reverse_stackAfter_of_unclosed hPost,
    h.pairs_of_unclosed hPost (Brace.keeps_nil _), h.pairs_body]
  rfl

end Block.IsFirst

namespace Region

mutual

/-- The region without what is in the regions `level` levels below it. -/
def cut (level : Nat) : Region → Region
  | ⟨keyword, id, name, objectType, target, source, offset, properties, children⟩ =>
      ⟨keyword, id, name, objectType, target, source, offset, properties,
        match level with
        | 0 => []
        | lower + 1 => cutAll lower children⟩

/-- The regions without what is in those `level` levels below them. -/
def cutAll (level : Nat) : List Region → List Region
  | [] => []
  | region :: rest => cut level region :: cutAll level rest

end

@[simp] theorem cutAll_nil (level : Nat) : cutAll level [] = [] := by
  rw [cutAll]

@[simp] theorem cutAll_append (level : Nat) (first second : List Region) :
    cutAll level (first ++ second) = cutAll level first ++ cutAll level second := by
  induction first with
  | nil => rw [cutAll, List.nil_append, List.nil_append]
  | cons region rest ih => rw [List.cons_append, cutAll, ih, cutAll, List.cons_append]

@[simp] theorem cutAll_eq_nil_iff (level : Nat) (regions : List Region) :
    cutAll level regions = [] ↔ regions = [] := by
  cases regions with
  | nil => simp
  | cons region rest => simp [cutAll]

section

variable (base : Nat) (block : Block)

theorem ofBody_eq_iff {first second : Forest} :
    ofBody base block first = ofBody base block second ↔ first.regions = second.regions := by
  constructor
  · intro h
    exact congrArg Region.children h
  · intro h
    rw [ofBody, ofBody, h]

theorem cut_zero_ofBody (inner : Forest) :
    cut 0 (ofBody base block inner) = ofBody base block .empty := by
  rw [ofBody, cut]
  rfl

theorem cut_succ_ofBody (level : Nat) (inner : Forest) :
    cut (level + 1) (ofBody base block inner) =
      ofBody base block ⟨cutAll level inner.regions, inner.findings⟩ := by
  rw [ofBody, cut]
  rfl

end

variable {text post : List Char} {block : Block} {limit depth bound base : Nat} {stack : List Nat}

/-- Without a limit an unclosed block holds a region exactly when a pair is completed in it. -/
theorem regions_body_eq_nil_iff (hFirst : Block.IsFirst text block) (hStack : stack.length = depth)
    (hHeight : ∀ x ∈ Brace.openings ((base + block.openOffset) :: stack)
      (Brace.ofText .code (base + block.bodyOffset) block.body), x.around.length < bound) :
    (matchBody bound depth base block).regions = [] ↔
      Brace.pairs [] (Brace.ofText .code (base + block.bodyOffset) block.body) = [] := by
  have hLength : ((base + block.openOffset) :: stack).length = depth + 1 := congrArg (· + 1) hStack
  have hKeeps := hFirst.keeps_body ((base + block.openOffset) :: stack) (base + block.bodyOffset)
  have hPlaces := openings_matchFrom bound (depth + 1) (base + block.bodyOffset) block.body
    ((base + block.openOffset) :: stack) hLength hKeeps hHeight
  have hDepth := hFirst.isSome_depthAfter_body (base + block.bodyOffset)
  rw [matchBody_of_height hFirst hLength hHeight,
    ← occurrencesAll_eq_nil_iff ((base + block.openOffset) :: stack), ← List.map_eq_nil_iff,
    hPlaces, keptOpenings_eq_nil_iff (List.cons_ne_nil _ _) hDepth, hFirst.pairs_body]

/-- An unclosed block at the last level. -/
theorem regions_unclosed_zero (hFirst : Block.IsFirst text block) (hPost : block.post = none)
    (hStack : stack.length = depth)
    (hHeight : ∀ x ∈ Brace.openings ((base + block.openOffset) :: stack)
      (Brace.ofText .code (base + block.bodyOffset) block.body), x.around.length < bound) :
    (ofBlock (depth + 1) depth base block .empty).regions =
        cutAll 0 (ofBlock bound depth base block (matchBody bound depth base block)).regions ↔
      (0 < depth → Brace.NoPairBehind 0 (Brace.ofText .code base text)) := by
  have hUnclosed := Block.not_isClosed_of_post hPost
  rw [hFirst.noPairBehind_zero_of_unclosed hPost, ← regions_body_eq_nil_iff hFirst hStack hHeight,
    regions_ofBlock, regions_ofBlock]
  by_cases hDepth : 0 < depth
  · by_cases hNone : (matchBody bound depth base block).regions = []
    · simp [hUnclosed, hDepth, hNone]
    · simp [hUnclosed, hDepth, hNone]
  · simp [hDepth, cutAll, cut_zero_ofBody]

/-- An unclosed block above the last level. -/
theorem regions_unclosed_succ (level : Nat) (limited inner : Forest)
    (hUnclosed : block.isClosed = false) :
    (ofBlock limit depth base block limited).regions =
        cutAll (level + 1) (ofBlock bound depth base block inner).regions ↔
      limited.regions = cutAll level inner.regions := by
  rw [regions_ofBlock, regions_ofBlock]
  by_cases hLimited : limited.regions = [] <;> by_cases hInner : inner.regions = [] <;>
    by_cases hDepth : 0 < depth <;>
    simp [hUnclosed, hLimited, hInner, hDepth, cutAll, cut_succ_ofBody, ofBody_eq_iff]

/-- Matching a part of a text with a limit gives what is left of the regions without a limit exactly when
no pair stands behind the brace that is left open at the last level. -/
theorem regions_matchFrom_limit (depth level base : Nat) (hLevel : depth + level + 1 = limit)
    (text : List Char) (stack : List Nat) (hStack : stack.length = depth)
    (hKeeps : Brace.Keeps stack (Brace.ofText .code base text))
    (hHeight : ∀ x ∈ Brace.openings stack (Brace.ofText .code base text), x.around.length < bound) :
    (matchFrom limit depth base text).regions =
        cutAll level (matchFrom bound depth base text).regions ↔
      (2 ≤ limit → Brace.NoPairBehind level (Brace.ofText .code base text)) := by
  induction text using Block.induction generalizing depth level base stack with
  | none text hNone =>
      have hClosing := (Block.find?_eq_none_iff text).mp hNone
      have hStackAfter := Brace.stackAfter_of_closing (Brace.isOpening_of_mem_ofText base hClosing)
      rw [matchFrom_of_none _ _ _ hNone, matchFrom_of_none _ _ _ hNone]
      simp [Brace.noPairBehind_of_stackAfter hStackAfter]
  | closed text block post hFirst hPost ihBody ihPost =>
      have hClosed := Block.isClosed_of_post hPost
      have hInnerKeeps :=
        hFirst.keeps_body ((base + block.openOffset) :: stack) (base + block.bodyOffset)
      rw [hFirst.openings_of_closed hPost hKeeps] at hHeight
      have hInnerHeight := fun x hx =>
        hHeight x (List.mem_cons_of_mem _ (List.mem_append_left _ hx))
      have hLater := ihPost depth level (base + block.closeOffset + 1) hLevel stack hStack
        (hFirst.keeps_post hPost hKeeps) fun x hx =>
          hHeight x (List.mem_cons_of_mem _ (List.mem_append_right _ hx))
      -- A closed block leaves nothing open, so in it the limit does what it should.
      have hBlock : ofBody base block (matchBody limit depth base block) =
          cut level (ofBody base block (matchBody bound depth base block)) := by
        cases level with
        | zero => rw [matchBody, if_pos (by omega), cut_zero_ofBody]
        | succ lower =>
            have hBalanced : Brace.stackAfter []
                (Brace.ofText .code (base + block.bodyOffset) block.body) = [] :=
              Brace.stackAfter_of_balanced (hFirst.depthAfter_body hPost _)
            have hInner := (ihBody (depth + 1) lower _ (by omega) _ (congrArg (· + 1) hStack)
              hInnerKeeps hInnerHeight).mpr fun _ => Brace.noPairBehind_of_stackAfter hBalanced
            rw [cut_succ_ofBody, ofBody_eq_iff,
              matchBody_of_height hFirst (congrArg (· + 1) hStack) hInnerHeight, matchBody,
              if_neg (by omega), hInner]
      rw [matchFrom_of_closed _ _ _ hFirst hPost, matchFrom_of_closed _ _ _ hFirst hPost,
        Forest.regions_append, Forest.regions_append, regions_ofBlock, regions_ofBlock,
        if_neg (by simp [hClosed]), if_neg (by simp [hClosed]), cutAll_append, cutAll, cutAll_nil,
        hBlock, List.append_cancel_left_eq, hLater, hFirst.noPairBehind_of_closed hPost]
  | unclosed text block hFirst hPost ihBody =>
      have hUnclosed := Block.not_isClosed_of_post hPost
      have hInnerKeeps :=
        hFirst.keeps_body ((base + block.openOffset) :: stack) (base + block.bodyOffset)
      rw [hFirst.openings_of_unclosed hPost hKeeps] at hHeight
      have hInnerHeight := fun x hx => hHeight x (List.mem_cons_of_mem _ hx)
      rw [matchFrom_of_unclosed _ _ _ hFirst hPost, matchFrom_of_unclosed _ _ _ hFirst hPost]
      cases level with
      | zero =>
          have hTop : 2 ≤ limit ↔ 0 < depth := by omega
          obtain rfl : limit = depth + 1 := by omega
          rw [hTop, ← regions_unclosed_zero hFirst hPost hStack hInnerHeight, matchBody,
            if_pos (Nat.le_refl _)]
      | succ lower =>
          have hInner := ihBody (depth + 1) lower _ (by omega) _ (congrArg (· + 1) hStack)
            hInnerKeeps hInnerHeight
          rw [regions_unclosed_succ lower _ _ hUnclosed, hFirst.noPairBehind_succ_of_unclosed hPost,
            ← hInner, matchBody_of_height hFirst (congrArg (· + 1) hStack) hInnerHeight, matchBody,
            if_neg (by omega)]

/-- The limit only truncates, with one exception. The regions that a limit leaves are the regions without
a limit, those of the last level without what is in them, exactly when the limit is one or no pair is
completed behind the brace that is never closed at the last level, if there is one. -/
theorem regions_matchSource_limit (maxDepth bound : Nat) (text : List Char) (hLimit : 1 ≤ maxDepth)
    (hHeight : Nesting.height text ≤ bound) :
    (matchSource maxDepth text).regions =
        cutAll (maxDepth - 1) (matchSource bound text).regions ↔
      (2 ≤ maxDepth → ∀ o, (Nesting.unclosed text)[maxDepth - 1]? = some o →
        ∀ pair ∈ Nesting.pairs text, pair.1 < o) := by
  have hMax : max 1 maxDepth = maxDepth := by omega
  rw [matchSource, matchSource, hMax]
  apply regions_matchFrom_limit 0 (maxDepth - 1) 0 (by omega) text [] rfl (Brace.keeps_nil _)
  intro x hx
  have hBelow := Nesting.length_around_lt_height hx
  omega

/-- The block of `c` is cut off at the last level, but no pair is completed in it; that of `b` is closed,
and loses the region in it. -/
theorem regions_of_cut_off_leaf :
    1 ≤ 2 ∧ Nesting.height "a \x7b b \x7b c \x7b \x7d \x7d\nc \x7b".toList ≤ 3 ∧
      (matchSource 2 "a \x7b b \x7b c \x7b \x7d \x7d\nc \x7b".toList).regions =
        cutAll 1 (matchSource 3 "a \x7b b \x7b c \x7b \x7d \x7d\nc \x7b".toList).regions := by
  have hHeight : Nesting.height "a \x7b b \x7b c \x7b \x7d \x7d\nc \x7b".toList ≤ 3 := by decide
  refine ⟨by decide, hHeight, (regions_matchSource_limit 2 3 _ (by decide) hHeight).mpr ?_⟩
  decide

/-- The block of `b` holds a closed one and stands at the last level, and it is left out with it. -/
theorem regions_of_cut_off_block :
    (matchSource 2 "a \x7b\n b \x7b\n c \x7b \x7d".toList).regions ≠
      cutAll 1 (matchSource 3 "a \x7b\n b \x7b\n c \x7b \x7d".toList).regions := by
  intro h
  have hNone := (regions_matchFrom_limit 0 1 0 rfl "a \x7b\n b \x7b\n c \x7b \x7d".toList [] rfl
    (Brace.keeps_nil _) (by decide)).mp h (by decide) 7 (by decide)
  exact absurd hNone (by decide)

end Region
end ObjectOutline
