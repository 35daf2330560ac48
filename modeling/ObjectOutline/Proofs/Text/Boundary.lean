import Mathlib.Algebra.GroupWithZero.Nat
import Mathlib.Data.List.TakeWhile
import Mathlib.Data.Prod.Lex
import Mathlib.Data.Set.Function
import ObjectOutline.Proofs.Text.Position
import ObjectOutline.Proofs.Text.Slices

/-! Offsets and positions, one to one. A boundary is an offset between two characters of a text or at one
of its ends. Boundaries further on have positions further on, and each of them is found again from its
position. The position of any offset can also be counted off the text in front of it: no slice of that
count is taken inside a character, and no step back leads in front of the text. -/
namespace ObjectOutline

namespace Text

/-- The offset lies between two characters of the text, or at one of its ends. -/
def IsBoundary (text : List Char) (offset : Nat) : Prop :=
  ∃ before behind, text = before ++ behind ∧ byteLength before = offset

theorem isBoundary_iff (text : List Char) (offset : Nat) :
    IsBoundary text offset ↔ (cutAt? offset text).isSome = true := by
  constructor
  · rintro ⟨before, behind, rfl, rfl⟩
    rw [cutAt?_append]
    rfl
  · intro h
    obtain ⟨⟨before, behind⟩, hCut⟩ := Option.isSome_iff_exists.mp h
    obtain ⟨hText, hLength⟩ := eq_of_cutAt? hCut
    exact ⟨before, behind, hText, hLength⟩

instance (text : List Char) (offset : Nat) : Decidable (IsBoundary text offset) :=
  decidable_of_iff _ (isBoundary_iff text offset).symm

/-- The boundary at an offset or the next one in front of it. A step back from the start of the text
has no result. -/
def boundaryBefore? (text : List Char) : Nat → Option Nat
  | 0 => if IsBoundary text 0 then some 0 else none
  | offset + 1 =>
      if IsBoundary text (offset + 1) then some (offset + 1) else boundaryBefore? text offset

/-- Where the last `c` of a text stands. -/
def lastOffset? (c : Char) : List Char → Option Nat
  | [] => none
  | d :: rest => ((lastOffset? c rest).map (d.utf8Size + ·)).or (if d = c then some 0 else none)

/-- Of two boundaries, the text up to the second one starts with the text up to the first one. -/
theorem IsBoundary.exists_between {text : List Char} {first last : Nat} (hFirst : IsBoundary text first)
    (hLast : IsBoundary text last) (h : first < last) :
    ∃ before between behind, text = before ++ (between ++ behind) ∧ byteLength before = first ∧
      byteLength (before ++ between) = last ∧ between ≠ [] := by
  obtain ⟨before, rest, rfl, rfl⟩ := hFirst
  obtain ⟨longer, behind, hText, rfl⟩ := hLast
  rcases List.append_eq_append_iff.mp hText with ⟨between, rfl, rfl⟩ | ⟨shorter, rfl, rfl⟩
  · refine ⟨before, between, behind, rfl, rfl, rfl, ?_⟩
    rintro rfl
    simp at h
  · rw [byteLength_append] at h
    omega

/-- An offset in front of the end lies at the first byte of a character or inside it. -/
theorem exists_char_of_lt {text : List Char} {offset : Nat} (h : offset < byteLength text) :
    ∃ before c behind inside, text = before ++ c :: behind ∧ inside < c.utf8Size ∧
      offset = byteLength before + inside := by
  induction text generalizing offset with
  | nil => simp at h
  | cons c rest ih =>
      by_cases hHere : offset < c.utf8Size
      · exact ⟨[], c, rest, offset, rfl, hHere, by simp⟩
      · rw [byteLength_cons] at h
        obtain ⟨before, d, behind, inside, rfl, hInside, hOffset⟩ := @ih (offset - c.utf8Size) (by omega)
        refine ⟨c :: before, d, behind, inside, rfl, hInside, ?_⟩
        rw [byteLength_cons]
        omega

/-- Inside a character there is no boundary. -/
theorem not_isBoundary_inside (before : List Char) {c : Char} {inside : Nat} (hPositive : 0 < inside)
    (hInside : inside < c.utf8Size) (behind : List Char) :
    ¬IsBoundary (before ++ c :: behind) (byteLength before + inside) := by
  rintro ⟨longer, rest, hText, hLength⟩
  rcases List.append_eq_append_iff.mp hText with ⟨more, rfl, hRest⟩ | ⟨more, rfl, -⟩
  · cases more with
    | nil => simp at hLength; omega
    | cons d more =>
        obtain rfl : c = d := (List.cons.inj hRest).1
        rw [byteLength_append, byteLength_cons] at hLength
        omega
  · rw [byteLength_append] at hLength
    omega

theorem isBoundary_byteLength (before behind : List Char) :
    IsBoundary (before ++ behind) (byteLength before) :=
  ⟨before, behind, rfl, rfl⟩

theorem boundaryBefore?_of_isBoundary {text : List Char} {offset : Nat} (h : IsBoundary text offset) :
    boundaryBefore? text offset = some offset := by
  cases offset <;> rw [boundaryBefore?, if_pos h]

/-- From inside a character, the steps lead back to its first byte. -/
theorem boundaryBefore?_inside (before : List Char) {c : Char} {inside : Nat}
    (hInside : inside < c.utf8Size) (behind : List Char) :
    boundaryBefore? (before ++ c :: behind) (byteLength before + inside) =
      some (byteLength before) := by
  induction inside with
  | zero => exact boundaryBefore?_of_isBoundary (isBoundary_byteLength before _)
  | succ inside ih =>
      have hNot : ¬IsBoundary (before ++ c :: behind) (byteLength before + inside + 1) :=
        not_isBoundary_inside before (Nat.succ_pos inside) hInside behind
      rw [← Nat.add_assoc, boundaryBefore?, if_neg hNot, ih (Nat.lt_of_succ_lt hInside)]

theorem lastOffset?_of_not_mem {c : Char} {text : List Char} (h : c ∉ text) :
    lastOffset? c text = none := by
  induction text with
  | nil => rfl
  | cons d rest ih =>
      rw [List.mem_cons, not_or] at h
      rw [lastOffset?, ih h.2, if_neg (Ne.symm h.1)]
      rfl

theorem lastOffset?_append {c : Char} {last : List Char} (h : c ∉ last) (front : List Char) :
    lastOffset? c (front ++ c :: last) = some (byteLength front) := by
  induction front with
  | nil =>
      rw [List.nil_append, lastOffset?, lastOffset?_of_not_mem h, if_pos rfl]
      rfl
  | cons d front ih =>
      rw [List.cons_append, lastOffset?, ih]
      rfl

/-- A text of more than one line is cut at its last line feed. -/
theorem exists_last_line {text : List Char} (h : '\n' ∈ text) :
    ∃ front last, text = front ++ '\n' :: last ∧ '\n' ∉ last := by
  obtain ⟨last, front, hText, hLast⟩ := List.eq_append_cons_of_mem (List.mem_reverse.mpr h)
  refine ⟨front.reverse, last.reverse, ?_, by simpa using hLast⟩
  rw [← text.reverse_reverse, hText]
  simp

/-- The first line of a text goes up to its first line feed. -/
theorem getElem?_lines_zero {before : List Char} (h : '\n' ∉ before) (behind : List Char) :
    (lines (before ++ behind))[0]? = some (before ++ behind.takeWhile (· != '\n')) := by
  by_cases hFeed : '\n' ∈ behind
  · obtain ⟨first, rest, rfl, hFirst⟩ := List.eq_append_cons_of_mem hFeed
    have hOneLine : '\n' ∉ before ++ first := by simp [h, hFirst]
    have hTake : (first ++ '\n' :: rest).takeWhile (· != '\n') = first := by
      apply takeWhile_append_eq_left
      · intro c hc
        simp only [bne_iff_ne]
        exact fun hEq => hFirst (hEq ▸ hc)
      · exact forall_mem_head?_cons (by decide) _
    rw [← List.append_assoc, lines_append, lines_of_not_mem hOneLine, hTake]
    rfl
  · have hOneLine : '\n' ∉ before ++ behind := by simp [h, hFeed]
    have hTake : behind.takeWhile (· != '\n') = behind := by
      rw [List.takeWhile_eq_self_iff]
      intro c hc
      simp only [bne_iff_ne]
      exact fun hEq => hFeed (hEq ▸ hc)
    rw [lines_of_not_mem hOneLine, hTake]
    rfl

theorem lines_line {line : List Char} (h : '\n' ∉ line) (rest : List Char) :
    lines (line ++ '\n' :: rest) = line :: lines rest := by
  rw [lines_append, lines_of_not_mem h, List.singleton_append]

end Text

namespace Position

variable (position : Position)

/-- Positions in reading order: by their lines, and on one line by their columns. -/
def readingOrder : ℕ ×ₗ ℕ :=
  toLex (position.line, position.column)

/-- The position behind a text. -/
def behind (text : List Char) : Position :=
  text.foldl advance start

/-- The offset of a position: behind the lines above it, each with its line feed, and behind as many
characters of its own line as its column says. -/
def offset? (text : List Char) : Option Nat :=
  ((Text.lines text)[position.line]?).bind fun line =>
    if position.column ≤ line.length then
      some ((((Text.lines text).take position.line).map fun above => Text.byteLength above + 1).sum +
        Text.byteLength (line.take position.column))
    else none

/-- The position of an offset, counted off the text in front of it: its line feeds, and the characters
behind the last of them. An offset past the end is moved to the end, and one inside a character back to
its first byte. There is no result when a slice is not taken between characters. -/
def countOff? (text : List Char) (offset : Nat) : Option Position := do
  let stop ← Text.boundaryBefore? text (min offset (Text.byteLength text))
  let before ← Text.slice? 0 stop text
  let lineStart := ((Text.lastOffset? '\n' before).map (· + 1)).getD 0
  let last ← Text.slice? lineStart (Text.byteLength before) before
  return ⟨before.count '\n', last.length⟩

theorem walk_of_le {text : List Char} {offset : Nat} (h : Text.byteLength text ≤ offset) :
    walk position text offset = text.foldl advance position := by
  induction text generalizing position offset with
  | nil => rfl
  | cons c rest ih =>
      rw [Text.byteLength_cons] at h
      rw [walk, if_pos (by omega), ih _ (by omega), List.foldl_cons]

theorem walk_inside {c : Char} {inside : Nat} (h : inside < c.utf8Size) (behind : List Char) :
    walk position (c :: behind) inside = position := by
  rw [walk, if_neg (Nat.not_le.mpr h)]

theorem foldl_advance_down (lines : Nat) (text : List Char) :
    text.foldl advance (position.down lines) = (text.foldl advance position).down lines := by
  rw [← walk_of_le _ (Nat.le_refl _), walk_down, walk_of_le _ (Nat.le_refl _)]

/-- An offset inside a character is placed at its first byte. -/
theorem ofOffset_inside (before : List Char) {c : Char} {inside : Nat} (h : inside < c.utf8Size)
    (after : List Char) :
    ofOffset (before ++ c :: after) (Text.byteLength before + inside) = behind before := by
  rw [ofOffset, walk_append, walk_inside _ h, walk_of_le _ (Nat.le_refl _), behind]

theorem ofOffset_append (before after : List Char) :
    ofOffset (before ++ after) (Text.byteLength before) = behind before := by
  rw [ofOffset_append_left (Nat.le_refl _), ofOffset, walk_of_le _ (Nat.le_refl _), behind]

theorem ofOffset_of_le {text : List Char} {offset : Nat} (h : Text.byteLength text ≤ offset) :
    ofOffset text offset = behind text :=
  walk_of_le start h

theorem foldl_advance_of_not_mem {line : List Char} (h : '\n' ∉ line) :
    line.foldl advance position = ⟨position.line, position.column + line.length⟩ := by
  induction line generalizing position with
  | nil => rfl
  | cons c rest ih =>
      rw [List.mem_cons, not_or] at h
      rw [List.foldl_cons, ih _ h.2, advance, if_neg (Ne.symm h.1), List.length_cons]
      simp only [Nat.add_assoc, Nat.add_comm 1]

theorem behind_of_not_mem {line : List Char} (h : '\n' ∉ line) : behind line = ⟨0, line.length⟩ := by
  rw [behind, foldl_advance_of_not_mem _ h, start, Nat.zero_add]

theorem behind_take {line : List Char} (h : '\n' ∉ line) {column : Nat} (hColumn : column ≤ line.length) :
    behind (line.take column) = ⟨0, column⟩ := by
  have hTake : '\n' ∉ line.take column := fun hMem => h (List.mem_of_mem_take hMem)
  rw [behind_of_not_mem hTake, List.length_take, Nat.min_eq_left hColumn]

/-- Behind a line and its line feed, positions start again one line further down. -/
theorem behind_line {line : List Char} (h : '\n' ∉ line) (rest : List Char) :
    behind (line ++ '\n' :: rest) = (behind rest).down 1 := by
  have hFeed : (behind line).advance '\n' = start.down 1 := by
    rw [behind_of_not_mem h]
    rfl
  rw [behind, List.foldl_append, List.foldl_cons, ← behind, hFeed, foldl_advance_down, ← behind]

theorem readingOrder_lt_advance (c : Char) :
    position.readingOrder < (position.advance c).readingOrder := by
  rw [readingOrder, readingOrder, Prod.Lex.toLex_lt_toLex, advance]
  split
  · exact Or.inl (Nat.lt_succ_self _)
  · exact Or.inr ⟨rfl, Nat.lt_succ_self _⟩

/-- Going on in a text leads to later positions. -/
theorem readingOrder_lt_foldl {text : List Char} (h : text ≠ []) :
    position.readingOrder < (text.foldl advance position).readingOrder := by
  induction text generalizing position with
  | nil => exact absurd rfl h
  | cons c rest ih =>
      have hHere := position.readingOrder_lt_advance c
      rw [List.foldl_cons]
      by_cases hEnd : rest = []
      · rw [hEnd]
        exact hHere
      · exact hHere.trans (ih _ hEnd)

theorem strictMonoOn_readingOrder (text : List Char) :
    StrictMonoOn (fun o => (ofOffset text o).readingOrder) {o | Text.IsBoundary text o} := by
  intro first hFirst last hLast hLt
  obtain ⟨before, between, after, rfl, rfl, rfl, hFilled⟩ := hFirst.exists_between hLast hLt
  simp only [ofOffset_append]
  rw [← List.append_assoc, ofOffset_append, behind, behind, List.foldl_append]
  exact readingOrder_lt_foldl _ hFilled

theorem injOn_ofOffset (text : List Char) : Set.InjOn (ofOffset text) {o | Text.IsBoundary text o} := by
  intro first hFirst last hLast hEq
  exact (strictMonoOn_readingOrder text).injOn hFirst hLast (congrArg readingOrder hEq)

theorem offset?_zero {before : List Char} (h : '\n' ∉ before) (after : List Char) :
    (behind before).offset? (before ++ after) = some (Text.byteLength before) := by
  rw [offset?, behind_of_not_mem h]
  simp [Text.getElem?_lines_zero h]

/-- On the lines behind the first one, a position is found in the text behind the first line. -/
theorem offset?_down {line : List Char} (h : '\n' ∉ line) (rest : List Char) :
    (position.down 1).offset? (line ++ '\n' :: rest) =
      (position.offset? rest).map (Text.byteLength line + 1 + ·) := by
  rw [offset?, offset?, Text.lines_line h]
  simp only [down, List.getElem?_cons_succ, List.take_succ_cons, List.map_cons, List.sum_cons]
  cases hLine : (Text.lines rest)[position.line]? with
  | none => rfl
  | some line =>
      simp only [Option.bind_some]
      split
      · simp [Nat.add_assoc]
      · rfl

/-- The position behind a part of a text leads back to where that part ends. -/
theorem offset?_behind (before after : List Char) :
    (behind before).offset? (before ++ after) = some (Text.byteLength before) := by
  induction before using Text.lines_induction with
  | last line hLine => exact offset?_zero hLine after
  | line line rest hLine ih =>
      have hSize : '\n'.utf8Size = 1 := by decide
      rw [behind_line hLine, List.append_assoc, List.cons_append, offset?_down _ hLine, ih]
      simp [hSize, Nat.add_assoc]

theorem exists_of_offset? {text : List Char} {o : Nat} (h : position.offset? text = some o) :
    ∃ before after, text = before ++ after ∧ Text.byteLength before = o ∧ behind before = position := by
  obtain ⟨line, column⟩ := position
  induction text using Text.lines_induction generalizing line o with
  | last text hText =>
      rw [offset?, Text.lines_of_not_mem hText] at h
      cases line with
      | succ line => simp at h
      | zero =>
          simp only [List.getElem?_cons_zero, Option.bind_some] at h
          split at h
          · next hColumn =>
            refine ⟨text.take column, text.drop column, (List.take_append_drop _ _).symm, ?_,
              behind_take hText hColumn⟩
            simpa using h
          · cases h
  | line first rest hFirst ih =>
      cases line with
      | zero =>
          rw [offset?, Text.lines_line hFirst] at h
          simp only [List.getElem?_cons_zero, Option.bind_some] at h
          split at h
          · next hColumn =>
            refine ⟨first.take column, first.drop column ++ '\n' :: rest, ?_, ?_,
              behind_take hFirst hColumn⟩
            · rw [← List.append_assoc, List.take_append_drop]
            · simpa using h
          · cases h
      | succ line =>
          have hDown := offset?_down ⟨line, column⟩ hFirst rest
          rw [show (⟨line + 1, column⟩ : Position) = down 1 ⟨line, column⟩ from rfl, hDown] at h
          obtain ⟨inner, hInner, rfl⟩ := Option.map_eq_some_iff.mp h
          obtain ⟨before, after, rfl, rfl, hBehind⟩ := ih _ hInner
          have hSize : '\n'.utf8Size = 1 := by decide
          refine ⟨first ++ '\n' :: before, after, by simp, ?_, ?_⟩
          · simp [hSize, Nat.add_assoc]
          · rw [behind_line hFirst, hBehind]
            rfl

/-- Walking to a position and placing an offset undo each other. -/
theorem offset?_eq_some_iff (text : List Char) (o : Nat) :
    position.offset? text = some o ↔ Text.IsBoundary text o ∧ ofOffset text o = position := by
  constructor
  · intro h
    obtain ⟨before, after, rfl, rfl, rfl⟩ := exists_of_offset? _ h
    exact ⟨Text.isBoundary_byteLength before after, ofOffset_append before after⟩
  · rintro ⟨⟨before, after, rfl, rfl⟩, rfl⟩
    rw [ofOffset_append, offset?_behind]

theorem line_behind (text : List Char) : (behind text).line = text.count '\n' := by
  rw [behind, ← walk_of_le _ (Nat.le_refl _), line_walk, start, Nat.zero_add]

/-- The last line of a text and the line feeds in front of it make up the position behind the text. -/
theorem behind_append_line (front : List Char) {last : List Char} (h : '\n' ∉ last) :
    behind (front ++ '\n' :: last) = ⟨(front ++ '\n' :: last).count '\n', last.length⟩ := by
  have hCount : (front ++ '\n' :: last).count '\n' = front.count '\n' + 1 := by
    simp [List.count_eq_zero.mpr h]
  rw [hCount, ← line_behind, behind, List.foldl_append, List.foldl_cons, foldl_advance_of_not_mem _ h,
    advance, if_pos rfl, Nat.zero_add, ← behind]

/-- The slice behind the last line feed is the last line. -/
theorem slice?_lastLine (before : List Char) :
    ∃ last, Text.slice? (((Text.lastOffset? '\n' before).map (· + 1)).getD 0)
        (Text.byteLength before) before = some last ∧
      behind before = ⟨before.count '\n', last.length⟩ := by
  by_cases hFeed : '\n' ∈ before
  · obtain ⟨front, last, rfl, hLast⟩ := Text.exists_last_line hFeed
    refine ⟨last, ?_, behind_append_line front hLast⟩
    rw [Text.lastOffset?_append hLast]
    exact (Text.slice?_eq_some_iff ..).mpr ⟨front ++ ['\n'], [], by simp, by simp; rfl, by simp⟩
  · refine ⟨before, ?_, ?_⟩
    · rw [Text.lastOffset?_of_not_mem hFeed]
      exact (Text.slice?_eq_some_iff ..).mpr ⟨[], [], by simp, rfl, rfl⟩
    · rw [behind_of_not_mem hFeed, List.count_eq_zero.mpr hFeed]

/-- Whatever the offset, the steps back from it end at a boundary, and this is the one that the offset is
placed at. -/
theorem exists_boundaryBefore? (text : List Char) (offset : Nat) :
    ∃ before after, text = before ++ after ∧
      Text.boundaryBefore? text (min offset (Text.byteLength text)) = some (Text.byteLength before) ∧
      ofOffset text offset = behind before := by
  rcases Nat.lt_or_ge offset (Text.byteLength text) with hLt | hEnd
  · obtain ⟨before, c, after, inside, rfl, hInside, rfl⟩ := Text.exists_char_of_lt hLt
    refine ⟨before, c :: after, rfl, ?_, ofOffset_inside before hInside after⟩
    rw [Nat.min_eq_left (Nat.le_of_lt hLt), Text.boundaryBefore?_inside before hInside]
  · refine ⟨text, [], (List.append_nil text).symm, ?_, ofOffset_of_le hEnd⟩
    rw [Nat.min_eq_right hEnd]
    exact Text.boundaryBefore?_of_isBoundary ⟨text, [], (List.append_nil text).symm, rfl⟩

/-- The count has a result for every offset, and it is the position of the offset. -/
theorem countOff?_eq (text : List Char) (offset : Nat) :
    countOff? text offset = some (ofOffset text offset) := by
  obtain ⟨before, after, rfl, hStop, hPosition⟩ := exists_boundaryBefore? text offset
  obtain ⟨last, hLast, hBehind⟩ := slice?_lastLine before
  have hFront : Text.slice? 0 (Text.byteLength before) (before ++ after) = some before :=
    (Text.slice?_eq_some_iff ..).mpr ⟨[], after, rfl, rfl, rfl⟩
  rw [hPosition, hBehind, countOff?, hStop]
  simp only [Option.bind_eq_bind, Option.bind_some, hFront, hLast]
  rfl

/-- The offsets of a text and its positions, one to one. From one boundary to the next, positions go on in
reading order, so no two boundaries have the same one. Walking to a position leads to the boundary that it
is the position of, and to nothing else. An offset inside a character has the position of its first byte,
and one past the end that of the end. Counting the position off gives it for every offset. -/
theorem offset_correspondence (text : List Char) :
    StrictMonoOn (fun o => (ofOffset text o).readingOrder) {o | Text.IsBoundary text o} ∧
      Set.InjOn (ofOffset text) {o | Text.IsBoundary text o} ∧
      (∀ position o, position.offset? text = some o ↔
        Text.IsBoundary text o ∧ ofOffset text o = position) ∧
      (∀ before c after inside, text = before ++ c :: after → inside < c.utf8Size →
        ofOffset text (Text.byteLength before + inside) = ofOffset text (Text.byteLength before)) ∧
      (∀ o, Text.byteLength text ≤ o → ofOffset text o = ofOffset text (Text.byteLength text)) ∧
      ∀ o, countOff? text o = some (ofOffset text o) := by
  refine ⟨strictMonoOn_readingOrder text, injOn_ofOffset text,
    fun position o => position.offset?_eq_some_iff text o, ?_, ?_, countOff?_eq text⟩
  · rintro before c after inside rfl hInside
    rw [ofOffset_inside before hInside, ofOffset_append]
  · intro o hEnd
    rw [ofOffset_of_le hEnd, ofOffset_of_le (Nat.le_refl _)]

/-- Two lines with characters of two and of four bytes. -/
def clefText : List Char :=
  "é\n𝄞x".toList

/-- Behind the second line starts a character that takes up the offsets 3 to 6. -/
theorem offset_correspondence_clefText :
    Text.IsBoundary clefText 2 ∧ Text.IsBoundary clefText 7 ∧
      (ofOffset clefText 2).readingOrder < (ofOffset clefText 7).readingOrder ∧
      (⟨1, 1⟩ : Position).offset? clefText = some 7 ∧
      ofOffset clefText 5 = ofOffset clefText 3 ∧
      ofOffset clefText 99 = ofOffset clefText 8 ∧ countOff? clefText 5 = some ⟨1, 0⟩ := by
  have hFirst : Text.IsBoundary clefText 2 := by decide
  have hLast : Text.IsBoundary clefText 7 := by decide
  obtain ⟨hOrder, -, hWalk, hInside, hEnd, hCount⟩ := offset_correspondence clefText
  exact ⟨hFirst, hLast, hOrder hFirst hLast (by decide), (hWalk _ _).mpr ⟨hLast, by decide⟩,
    hInside "é\n".toList '𝄞' ['x'] 2 (by decide) (by decide), hEnd 99 (by decide), hCount 5⟩

end Position
end ObjectOutline
