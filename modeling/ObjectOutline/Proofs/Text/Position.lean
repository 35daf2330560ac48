import ObjectOutline.Position
import ObjectOutline.Proofs.Text.Lines

/-! Positions in a text that is put together from two. In the first part they are what they are in
that part alone. If the first part consists of whole lines, those in the second part only move down by
as many lines. -/
namespace ObjectOutline.Position

/-- The same column, `lines` lines further down. -/
def down (lines : Nat) (position : Position) : Position :=
  ⟨position.line + lines, position.column⟩

variable (position : Position)

theorem advance_down (lines : Nat) (c : Char) :
    (position.down lines).advance c = (position.advance c).down lines := by
  by_cases hLine : c = '\n'
  · simp only [advance, down, if_pos hLine, Nat.add_right_comm]
  · simp only [advance, down, if_neg hLine]

theorem walk_down (lines : Nat) (text : List Char) (offset : Nat) :
    walk (position.down lines) text offset = (walk position text offset).down lines := by
  induction text generalizing position offset with
  | nil => rfl
  | cons c rest ih =>
      rw [walk, walk, advance_down, ih]
      split <;> rfl

/-- What stands behind a place does not change it. -/
theorem walk_append_of_le {left : List Char} {offset : Nat} (h : offset ≤ Text.byteLength left)
    (right : List Char) : walk position (left ++ right) offset = walk position left offset := by
  induction left generalizing position offset with
  | nil =>
      cases right with
      | nil => rfl
      | cons c right =>
          have hSize := c.utf8Size_pos
          have hOffset : ¬c.utf8Size ≤ offset := by
            rw [Text.byteLength_nil] at h
            omega
          simp only [List.nil_append, walk, if_neg hOffset]
  | cons c rest ih =>
      rw [List.cons_append, walk, walk]
      split
      · apply ih
        rw [Text.byteLength_cons] at h
        omega
      · rfl

theorem walk_append (left right : List Char) (offset : Nat) :
    walk position (left ++ right) (Text.byteLength left + offset) =
      walk (walk position left (Text.byteLength left)) right offset := by
  induction left generalizing position with
  | nil => rw [List.nil_append, Text.byteLength_nil, Nat.zero_add, walk]
  | cons c rest ih =>
      have hWhole : c.utf8Size + Text.byteLength rest + offset - c.utf8Size =
          Text.byteLength rest + offset := by omega
      rw [List.cons_append, walk, walk, Text.byteLength_cons, if_pos (by omega), if_pos (by omega),
        hWhole, ih, Nat.add_sub_cancel_left]

theorem line_walk (text : List Char) :
    (walk position text (Text.byteLength text)).line = position.line + text.count '\n' := by
  induction text generalizing position with
  | nil => rfl
  | cons c rest ih =>
      rw [walk, Text.byteLength_cons, if_pos (Nat.le_add_right _ _), Nat.add_sub_cancel_left, ih,
        List.count_cons]
      by_cases hLine : c = '\n'
      · simp only [advance, hLine, beq_self_eq_true, if_true]
        omega
      · simp [advance, hLine]

/-- Whole lines lead to the start of a line. -/
theorem walk_of_endsLine {text : List Char} (h : Text.EndsLine text) :
    walk start text (Text.byteLength text) = start.down (text.count '\n') := by
  -- The line counts the line feeds, and the last of them sets the column back.
  have hLine := line_walk start text
  have hColumn : (walk start text (Text.byteLength text)).column = 0 := by
    rcases h with rfl | ⟨before, rfl⟩
    · rfl
    · rw [Text.byteLength_append, walk_append]
      rfl
  calc
    _ = Position.mk (walk start text (Text.byteLength text)).line
          (walk start text (Text.byteLength text)).column := rfl
    _ = _ := by
      rw [hLine, hColumn]
      rfl

theorem ofOffset_append_left {left : List Char} {offset : Nat} (h : offset ≤ Text.byteLength left)
    (right : List Char) : ofOffset (left ++ right) offset = ofOffset left offset :=
  walk_append_of_le start h right

theorem ofOffset_append_right {left : List Char} (h : Text.EndsLine left) (right : List Char)
    (offset : Nat) :
    ofOffset (left ++ right) (offset + Text.byteLength left) =
      (ofOffset right offset).down (left.count '\n') := by
  rw [Nat.add_comm, ofOffset, walk_append, walk_of_endsLine h, walk_down, ofOffset]

end ObjectOutline.Position
