import ObjectOutline.Position
import ObjectOutline.Proofs.Text.Position
import ObjectOutline.Proofs.Written.PropertyLine

/-! Line endings. A carriage return in front of each line feed is a blank at the end of each line: lines
are read as they are without it, and a place further on in the bytes is the same place in lines and
columns. -/
namespace ObjectOutline

namespace Text

/-- A line feed with a carriage return in front of it, and any other character as it is. -/
def withReturn (c : Char) : List Char :=
  if c = '\n' then ['\r', '\n'] else [c]

/-- The text with a carriage return in front of each line feed. -/
def withReturns (text : List Char) : List Char :=
  text.flatMap withReturn

@[simp] theorem withReturn_lineFeed : withReturn '\n' = ['\r', '\n'] := rfl

theorem withReturn_of_ne {c : Char} (h : c ≠ '\n') : withReturn c = [c] :=
  if_neg h

@[simp] theorem withReturns_nil : withReturns [] = [] := rfl

theorem withReturns_cons (c : Char) (text : List Char) :
    withReturns (c :: text) = withReturn c ++ withReturns text := rfl

theorem withReturns_append (left right : List Char) :
    withReturns (left ++ right) = withReturns left ++ withReturns right :=
  List.flatMap_append

theorem withReturns_of_not_mem {line : List Char} (h : '\n' ∉ line) : withReturns line = line := by
  induction line with
  | nil => rfl
  | cons c rest ih =>
      rw [List.mem_cons, not_or] at h
      rw [withReturns_cons, withReturn_of_ne (Ne.symm h.1), ih h.2, List.singleton_append]

/-- A line gets a carriage return at its end, in front of its line feed. -/
theorem withReturns_line {line : List Char} (h : '\n' ∉ line) (rest : List Char) :
    withReturns (line ++ '\n' :: rest) = (line ++ ['\r']) ++ '\n' :: withReturns rest := by
  rw [withReturns_append, withReturns_of_not_mem h, withReturns_cons, withReturn_lineFeed,
    List.append_assoc]
  rfl

theorem isBlank_return : ∀ c ∈ ['\r'], isBlank c = true :=
  List.forall_mem_singleton.mpr (by decide)

theorem not_mem_line_return {line : List Char} (h : '\n' ∉ line) : '\n' ∉ line ++ ['\r'] := by
  simp [h]

/-- Trimmed, the lines are the same. -/
theorem map_trim_lines_withReturns (text : List Char) :
    (lines (withReturns text)).map trim = (lines text).map trim := by
  induction text using lines_induction with
  | last line hLine => rw [withReturns_of_not_mem hLine]
  | line line rest hLine ih =>
      rw [withReturns_line hLine, lines_append, lines_append, List.map_append, List.map_append, ih,
        lines_of_not_mem (not_mem_line_return hLine), lines_of_not_mem hLine, List.map_singleton,
        trim_append_blanks isBlank_return, List.map_singleton]

theorem lastFilledLine_withReturns (text : List Char) :
    lastFilledLine (withReturns text) = lastFilledLine text := by
  rw [lastFilledLine, map_trim_lines_withReturns, lastFilledLine]

/-- Where an offset comes to stand when each line feed of the text gets a carriage return. -/
def placeWithReturns : List Char → Nat → Nat
  | [], offset => offset
  | c :: rest, offset =>
      if c.utf8Size ≤ offset then
        byteLength (withReturn c) + placeWithReturns rest (offset - c.utf8Size)
      else offset

/-- The end of the first part of a text comes to stand at the end of that part. -/
theorem placeWithReturns_append (left right : List Char) :
    placeWithReturns (left ++ right) (byteLength left) = byteLength (withReturns left) := by
  induction left with
  | nil =>
      cases right with
      | nil => rfl
      | cons c right =>
          have hSize := c.utf8Size_pos
          rw [List.nil_append, placeWithReturns, byteLength_nil, if_neg (by omega)]
          rfl
  | cons c rest ih =>
      rw [List.cons_append, placeWithReturns, byteLength_cons, if_pos (Nat.le_add_right _ _),
        Nat.add_sub_cancel_left, ih, withReturns_cons, byteLength_append]

end Text

namespace Property

theorem ofLine?_append_blanks {blanks : List Char} (h : ∀ c ∈ blanks, Text.isBlank c = true)
    (line : List Char) : ofLine? (line ++ blanks) = ofLine? line := by
  rw [ofLine?, Text.trim_append_blanks h, ofLine?]

theorem ofLines_withReturns (text : List Char) :
    ofLines (Text.withReturns text) = ofLines text := by
  induction text using Text.lines_induction with
  | last line hLine => rw [Text.withReturns_of_not_mem hLine]
  | line line rest hLine ih =>
      rw [Text.withReturns_line hLine, ofLines_append, ofLines_append, ih,
        ofLines_of_not_mem (Text.not_mem_line_return hLine), ofLines_of_not_mem hLine,
        ofLine?_append_blanks Text.isBlank_return]

end Property

namespace Position

theorem walk_withReturn (position : Position) (c : Char) :
    walk position (Text.withReturn c) (Text.byteLength (Text.withReturn c)) = position.advance c := by
  by_cases hFeed : c = '\n'
  · rw [hFeed]
    rfl
  · simp [Text.withReturn_of_ne hFeed, walk]

/-- In front of the end of a character nothing is passed over, nor is it with a carriage return. -/
theorem walk_withReturn_append_of_lt (position : Position) {c : Char} {offset : Nat}
    (h : ¬c.utf8Size ≤ offset) (rest : List Char) :
    walk position (Text.withReturn c ++ rest) offset = position := by
  by_cases hFeed : c = '\n'
  · have hSize : '\n'.utf8Size = 1 ∧ '\r'.utf8Size = 1 := by decide
    rw [hFeed] at h ⊢
    rw [Text.withReturn_lineFeed, List.cons_append, walk, if_neg (by omega)]
  · rw [Text.withReturn_of_ne hFeed, List.singleton_append, walk, if_neg h]

/-- A carriage return in front of a line feed moves no place to another line or column. -/
theorem walk_withReturns (position : Position) (text : List Char) (offset : Nat) :
    walk position (Text.withReturns text) (Text.placeWithReturns text offset) =
      walk position text offset := by
  induction text generalizing position offset with
  | nil => rfl
  | cons c rest ih =>
      rw [Text.withReturns_cons, Text.placeWithReturns, walk]
      split
      · rw [walk_append, walk_withReturn, ih]
      · next hInside => exact walk_withReturn_append_of_lt position hInside _

end Position

end ObjectOutline
