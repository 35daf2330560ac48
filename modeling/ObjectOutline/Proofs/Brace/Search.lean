import Mathlib.Order.Bounds.Basic
import ObjectOutline.Proofs.Brace.BlockNesting
import ObjectOutline.Proofs.Brace.Bytes
import ObjectOutline.Proofs.Text.Slices

/-! The search for a block, told from the braces of code alone. A block starts at the first opening brace
and ends at the first place up to which as many braces close as open. The parts of a block are slices of
the text: every offset of the block is one of a character. -/
namespace ObjectOutline

namespace Brace

/-- As many of the braces open as close. -/
def Balanced (braces : List Brace) : Prop :=
  braces.countP isOpening = braces.countP fun brace => !brace.isOpening

instance (braces : List Brace) : Decidable (Balanced braces) :=
  inferInstanceAs (Decidable (_ = _))

/-- The braces from one place up to another, both included. -/
def within (first last : Nat) (braces : List Brace) : List Brace :=
  braces.filter fun brace => first ≤ brace.offset && brace.offset ≤ last

/-- Behind `o` stands a closing brace at `c`, and from `o` up to it the braces balance. -/
structure BalancesAt (braces : List Brace) (o c : Nat) : Prop where
  behind : o < c
  closes : closing c ∈ braces
  balanced : Balanced (within o c braces)

section

variable {front inside behind braces : List Brace} {o c k : Nat}

theorem countP_of_depthAfter {depth after : Nat} (h : depthAfter depth braces = some after) :
    depth + braces.countP isOpening = after + braces.countP fun brace => !brace.isOpening := by
  induction braces generalizing depth with
  | nil =>
      obtain rfl : depth = after := Option.some.inj h
      rfl
  | cons brace rest ih =>
      cases brace with
      | opening o =>
          have hRest := @ih (depth + 1) h
          simp only [List.countP_cons, isOpening] at hRest ⊢
          simp only [Bool.not_true, Bool.false_eq_true, if_true, if_false]
          omega
      | closing c =>
          cases depth with
          | zero => simp [depthAfter] at h
          | succ outer =>
              have hRest := ih h
              simp only [List.countP_cons, isOpening] at hRest ⊢
              simp only [Bool.not_false, Bool.false_eq_true, if_true, if_false]
              omega

theorem isSome_depthAfter_of_append {depth : Nat}
    (h : (depthAfter depth (inside ++ behind)).isSome = true) :
    (depthAfter depth inside).isSome = true := by
  rw [depthAfter_append] at h
  exact Option.isSome_of_isSome_bind h

/-- A block balances at the brace that closes it. -/
theorem balanced_block (h : depthAfter 0 inside = some 0) (o c : Nat) :
    Balanced (opening o :: (inside ++ [closing c])) := by
  have hCount := countP_of_depthAfter (depthAfter_block h o c)
  rwa [Nat.zero_add, Nat.zero_add] at hCount

/-- Inside a block more braces have opened than closed, its own brace among them. -/
theorem not_balanced_of_isSome (h : (depthAfter 0 inside).isSome = true) (o : Nat) :
    ¬Balanced (opening o :: inside) := by
  obtain ⟨after, hDepth⟩ := Option.isSome_iff_exists.mp h
  have hCount := countP_of_depthAfter hDepth
  have hOpens : (opening o :: inside).countP isOpening = inside.countP isOpening + 1 :=
    List.countP_cons_of_pos rfl
  have hCloses : (opening o :: inside).countP (fun brace => !brace.isOpening) =
      inside.countP fun brace => !brace.isOpening :=
    List.countP_cons_of_neg (by simp [isOpening])
  rw [Balanced, hOpens, hCloses]
  omega

/-- Braces in order, told from one of them. -/
theorem offset_lt_of_sorted {brace : Brace}
    (h : (front ++ brace :: behind).Pairwise fun first second => first.offset < second.offset) :
    (∀ other ∈ front, other.offset < brace.offset) ∧
      ∀ other ∈ behind, brace.offset < other.offset := by
  obtain ⟨-, hRest, hFront⟩ := List.pairwise_append.mp h
  exact ⟨fun other hOther => hFront other hOther brace List.mem_cons_self,
    (List.pairwise_cons.mp hRest).1⟩

/-- Of braces in order, those from an opening one to a closing one behind it. -/
theorem within_of_sorted
    (h : (front ++ opening o :: (inside ++ closing c :: behind)).Pairwise
      fun first second => first.offset < second.offset) :
    within o c (front ++ opening o :: (inside ++ closing c :: behind)) =
      opening o :: (inside ++ [closing c]) := by
  obtain ⟨hFront, hOpening⟩ := offset_lt_of_sorted h
  obtain ⟨hInside, hBehind⟩ := offset_lt_of_sorted (List.pairwise_append.mp h).2.1.of_cons
  have hWidth : o < c := hOpening _ (List.mem_append_right _ List.mem_cons_self)
  have hFrontOut : within o c front = [] := by
    apply List.filter_eq_nil_iff.mpr
    intro brace hBrace
    have hBefore : brace.offset < o := hFront brace hBrace
    simp only [Bool.and_eq_true, decide_eq_true_eq]
    omega
  have hInsideIn : within o c inside = inside := by
    apply List.filter_eq_self.mpr
    intro brace hBrace
    have hAfter : o < brace.offset := hOpening brace (List.mem_append_left _ hBrace)
    have hBefore : brace.offset < c := hInside brace hBrace
    simp only [Bool.and_eq_true, decide_eq_true_eq]
    omega
  have hBehindOut : within o c behind = [] := by
    apply List.filter_eq_nil_iff.mpr
    intro brace hBrace
    have hAfter : c < brace.offset := hBehind brace hBrace
    simp only [Bool.and_eq_true, decide_eq_true_eq]
    omega
  have hOpeningIn : within o c [opening o] = [opening o] := by
    simp [within, offset, Nat.le_of_lt hWidth]
  have hClosingIn : within o c [closing c] = [closing c] := by
    simp [within, offset, Nat.le_of_lt hWidth]
  calc within o c (front ++ ([opening o] ++ (inside ++ ([closing c] ++ behind))))
      = within o c front ++ (within o c [opening o] ++ (within o c inside ++
          (within o c [closing c] ++ within o c behind))) := by
        simp only [within, List.filter_append]
    _ = opening o :: (inside ++ [closing c]) := by
        rw [hFrontOut, hOpeningIn, hInsideIn, hClosingIn, hBehindOut]
        simp

/-- Inside a block that is not closed there, the braces do not balance. -/
theorem not_balancesAt_inside
    (hSorted : (front ++ opening o :: (inside ++ behind)).Pairwise
      fun first second => first.offset < second.offset)
    (hDepth : (depthAfter 0 inside).isSome = true) (hc : closing c ∈ inside) :
    ¬BalancesAt (front ++ opening o :: (inside ++ behind)) o c := by
  obtain ⟨before, later, rfl⟩ := List.append_of_mem hc
  have hBefore : (depthAfter 0 (before ++ [closing c])).isSome = true := by
    apply isSome_depthAfter_of_append
    rwa [List.append_assoc, List.singleton_append]
  intro hBalances
  have hBalanced := hBalances.balanced
  rw [List.append_assoc, List.cons_append] at hSorted hBalanced
  rw [within_of_sorted hSorted] at hBalanced
  exact not_balanced_of_isSome hBefore o hBalanced

/-- A place where braces in order balance stands behind the opening brace. -/
theorem BalancesAt.mem_behind
    (hSorted : (front ++ opening o :: behind).Pairwise
      fun first second => first.offset < second.offset)
    (h : BalancesAt (front ++ opening o :: behind) o c) : closing c ∈ behind := by
  rcases List.mem_append.mp h.closes with hBefore | hRest
  · have hLt : c < o := (offset_lt_of_sorted hSorted).1 _ hBefore
    exact absurd h.behind (Nat.lt_asymm hLt)
  · exact (List.mem_cons.mp hRest).resolve_left nofun

/-- The brace that closes a block is the first one at which the braces from its start on balance. -/
theorem isLeast_balancesAt
    (hSorted : (front ++ opening o :: (inside ++ closing k :: behind)).Pairwise
      fun first second => first.offset < second.offset)
    (hDepth : depthAfter 0 inside = some 0) :
    IsLeast {c | BalancesAt (front ++ opening o :: (inside ++ closing k :: behind)) o c} k := by
  have hWidth : o < k := (offset_lt_of_sorted hSorted).2 (closing k) (by simp)
  have hRest := (List.pairwise_append.mp hSorted).2.1.of_cons
  refine ⟨⟨hWidth, by simp, ?_⟩, ?_⟩
  · rw [within_of_sorted hSorted]
    exact balanced_block hDepth o k
  · intro c hBalances
    rcases List.mem_append.mp (hBalances.mem_behind hSorted) with hInside | hAfter
    · exact absurd hBalances (not_balancesAt_inside hSorted (by rw [hDepth]; rfl) hInside)
    · rcases List.mem_cons.mp hAfter with hEq | hLater
      · exact (closing.inj hEq).ge
      · exact Nat.le_of_lt ((offset_lt_of_sorted hRest).2 _ hLater)

/-- In a block that is never closed, the braces from its start on balance nowhere. -/
theorem not_balancesAt_of_isSome
    (hSorted : (front ++ opening o :: inside).Pairwise
      fun first second => first.offset < second.offset)
    (hDepth : (depthAfter 0 inside).isSome = true) (c : Nat) :
    ¬BalancesAt (front ++ opening o :: inside) o c := by
  intro hBalances
  have hInside := hBalances.mem_behind hSorted
  rw [← List.append_nil inside] at hSorted hBalances
  exact not_balancesAt_inside hSorted hDepth hInside hBalances

/-- The first opening brace of braces in order, when only closing ones stand in front of it. -/
theorem isLeast_opening
    (hSorted : (front ++ opening o :: behind).Pairwise
      fun first second => first.offset < second.offset)
    (hFront : ∀ brace ∈ front, brace.isOpening = false) :
    IsLeast {p | opening p ∈ front ++ opening o :: behind} o := by
  refine ⟨by simp, ?_⟩
  intro p hMem
  rcases List.mem_append.mp hMem with hBefore | hHere
  · exact absurd (hFront _ hBefore) (by simp [isOpening])
  · rcases List.mem_cons.mp hHere with hEq | hLater
    · exact (opening.inj hEq).ge
    · exact Nat.le_of_lt ((offset_lt_of_sorted hSorted).2 _ hLater)

end

end Brace

namespace Block

variable {text post : List Char} {block : Block}

namespace IsFirst

theorem isLeast_openOffset (h : IsFirst text block) :
    IsLeast {o | Brace.opening o ∈ Nesting.braces text} block.openOffset := by
  have hSorted := Brace.ofText_sorted .code 0 text
  rw [Nesting.braces]
  cases hPost : block.post with
  | none =>
      rw [h.braces_of_unclosed hPost, Nat.zero_add] at hSorted ⊢
      exact Brace.isLeast_opening hSorted h.preBraces
  | some post =>
      rw [h.braces_of_closed hPost, Nat.zero_add] at hSorted ⊢
      exact Brace.isLeast_opening hSorted h.preBraces

theorem isLeast_closeOffset (h : IsFirst text block) (hPost : block.post = some post) :
    IsLeast {c | Brace.BalancesAt (Nesting.braces text) block.openOffset c} block.closeOffset := by
  have hSorted := Brace.ofText_sorted .code 0 text
  rw [Nesting.braces]
  rw [h.braces_of_closed hPost] at hSorted ⊢
  simp only [Nat.zero_add] at hSorted ⊢
  exact Brace.isLeast_balancesAt hSorted (h.depthAfter_body hPost _)

theorem not_balancesAt (h : IsFirst text block) (hPost : block.post = none) (c : Nat) :
    ¬Brace.BalancesAt (Nesting.braces text) block.openOffset c := by
  have hSorted := Brace.ofText_sorted .code 0 text
  rw [Nesting.braces]
  rw [h.braces_of_unclosed hPost, Nat.zero_add] at hSorted ⊢
  exact Brace.not_balancesAt_of_isSome hSorted (h.isSome_depthAfter_body _) c

end IsFirst

theorem closeOffset?_eq_some (hPost : block.post = some post) :
    block.closeOffset? = some block.closeOffset := by
  rw [closeOffset?, hPost]
  rfl

theorem closeOffset?_eq_none (hPost : block.post = none) : block.closeOffset? = none := by
  rw [closeOffset?, hPost]
  rfl

/-- The parts of a block are the slices of the text between the offsets of its braces, and with the braces
they make up the text. -/
structure IsSliced (text : List Char) (block : Block) : Prop where
  pre : Text.slice? 0 block.openOffset text = some block.pre
  opening : Text.slice? block.openOffset block.bodyOffset text = some ['{']
  body : Text.slice? block.bodyOffset (block.closeOffset?.getD (Text.byteLength text)) text =
    some block.body
  closed : ∀ c, block.closeOffset? = some c → ∃ post, block.post = some post ∧
    Text.slice? c (c + 1) text = some ['}'] ∧
    Text.slice? (c + 1) (Text.byteLength text) text = some post ∧
    text = block.pre ++ '{' :: block.body ++ '}' :: post
  unclosed : block.closeOffset? = none → block.post = none ∧ text = block.pre ++ '{' :: block.body

theorem IsFirst.isSliced (h : IsFirst text block) : IsSliced text block := by
  have hOpenSize : '{'.utf8Size = 1 := by decide
  have hCloseSize : '}'.utf8Size = 1 := by decide
  have hBodyOffset : Text.byteLength (block.pre ++ ['{']) = block.bodyOffset := by
    simp [hOpenSize, bodyOffset, openOffset]
  have hCloseOffset : Text.byteLength (block.pre ++ ['{'] ++ block.body) = block.closeOffset := by
    rw [Text.byteLength_append, hBodyOffset, closeOffset]
  have hStart {rest : List Char} (hText : text = block.pre ++ '{' :: rest) :
      Text.slice? 0 block.openOffset text = some block.pre ∧
        Text.slice? block.openOffset block.bodyOffset text = some ['{'] :=
    ⟨(Text.slice?_eq_some_iff ..).mpr ⟨[], '{' :: rest, hText, rfl, rfl⟩,
      (Text.slice?_eq_some_iff ..).mpr
        ⟨block.pre, rest, by simpa using hText, rfl, hBodyOffset⟩⟩
  cases hPost : block.post with
  | none =>
      have hNone := closeOffset?_eq_none hPost
      have hText := h.eq_of_unclosed hPost
      obtain ⟨hPre, hOpening⟩ := hStart hText
      refine ⟨hPre, hOpening, ?_, ?_, fun _ => ⟨hPost, hText⟩⟩
      · rw [hNone]
        exact (Text.slice?_eq_some_iff ..).mpr
          ⟨block.pre ++ ['{'], [], by simpa using hText, hBodyOffset, by simp [hText]⟩
      · simp [hNone]
  | some post =>
      have hSome := closeOffset?_eq_some hPost
      have hText := h.eq_of_closed hPost
      obtain ⟨hPre, hOpening⟩ := hStart (by rw [hText, List.append_assoc, List.cons_append])
      refine ⟨hPre, hOpening, ?_, ?_, by simp [hSome]⟩
      · rw [hSome]
        exact (Text.slice?_eq_some_iff ..).mpr
          ⟨block.pre ++ ['{'], '}' :: post, by simpa using hText, hBodyOffset, hCloseOffset⟩
      · rintro c hc
        obtain rfl : block.closeOffset = c := by simpa [hSome] using hc
        have hPostOffset : Text.byteLength (block.pre ++ ['{'] ++ block.body ++ ['}']) =
            block.closeOffset + 1 := by
          rw [Text.byteLength_append, hCloseOffset]
          simp [hCloseSize]
        refine ⟨post, hPost, ?_, ?_, hText⟩
        · exact (Text.slice?_eq_some_iff ..).mpr
            ⟨block.pre ++ ['{'] ++ block.body, post, by simpa using hText, hCloseOffset, hPostOffset⟩
        · exact (Text.slice?_eq_some_iff ..).mpr
            ⟨block.pre ++ ['{'] ++ block.body ++ ['}'], [], by simpa using hText, hPostOffset,
              by simp [hText]⟩

/-- The first block of a text, said on its bytes. These are read once, from the start and with a view of the
next byte. There is a block when they have an opening brace of code; it starts at the first one, and ends
at the first closing brace of code behind that up to which as many close as open. All its offsets are
boundaries of characters, and its parts are what stands between them. -/
theorem find?_of_bytes (text : List Char) :
    let braces := ByteState.bracesOf (Text.bytes text)
    (find? text = none ↔ ∀ brace ∈ braces, brace.isOpening = false) ∧
      ∀ block, find? text = some block →
        IsLeast {o | Brace.opening o ∈ braces} block.openOffset ∧
        (∀ c, block.closeOffset? = some c ↔
          IsLeast {k | Brace.BalancesAt braces block.openOffset k} c) ∧
        (block.closeOffset? = none ↔ ∀ c, ¬Brace.BalancesAt braces block.openOffset c) ∧
        IsSliced text block := by
  rw [ByteState.bracesOf_bytes]
  refine ⟨find?_eq_none_iff text, fun block hFind => ?_⟩
  have hFirst := (find?_eq_some_iff text block).mp hFind
  refine ⟨hFirst.isLeast_openOffset, ?_, ?_, hFirst.isSliced⟩
  · intro c
    cases hPost : block.post with
    | none =>
        have hNot := hFirst.not_balancesAt hPost
        rw [closeOffset?_eq_none hPost]
        exact iff_of_false nofun fun hLeast => hNot c hLeast.1
    | some post =>
        have hLeast := hFirst.isLeast_closeOffset hPost
        rw [closeOffset?_eq_some hPost, Option.some.injEq]
        exact ⟨fun hEq => hEq ▸ hLeast, fun hOther => hLeast.unique hOther⟩
  · cases hPost : block.post with
    | none =>
        exact iff_of_true (closeOffset?_eq_none hPost) (hFirst.not_balancesAt hPost)
    | some post =>
        have hLeast := hFirst.isLeast_closeOffset hPost
        rw [closeOffset?_eq_some hPost]
        exact iff_of_false nofun fun hNot => hNot _ hLeast.1

/-- A text with stray and hidden braces and with characters of several bytes. -/
def strayBraces : List Char :=
  "é\x7d // \x7b\n\x7b 'ü\x7d' \x7b \x7d /* \x7d */ \x7d z".toList

/-- What the first block of that text holds. -/
def strayBody : List Char :=
  " 'ü\x7d' \x7b \x7d /* \x7d */ ".toList

/-- The search passes over all of them. -/
theorem find?_strayBraces :
    find? strayBraces = some ⟨"é\x7d // \x7b\n".toList, strayBody, some " z".toList⟩ ∧
      IsLeast {o | Brace.opening o ∈ ByteState.bracesOf (Text.bytes strayBraces)} 9 ∧
      IsLeast {k | Brace.BalancesAt (ByteState.bracesOf (Text.bytes strayBraces)) 9 k} 29 ∧
      Text.slice? 10 29 strayBraces = some strayBody := by
  have hFind : find? strayBraces =
      some ⟨"é\x7d // \x7b\n".toList, strayBody, some " z".toList⟩ := by decide
  obtain ⟨hOpen, hClose, -, hSliced⟩ := (find?_of_bytes strayBraces).2 _ hFind
  exact ⟨hFind, hOpen, (hClose 29).mp (by decide), hSliced.body⟩

end Block
end ObjectOutline
