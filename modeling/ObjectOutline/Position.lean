import ObjectOutline.Text.Bytes

/-! Positions in a text: a line and a column, both counted from zero, the column in characters. A
position is found from a byte offset. An offset inside a character gives the place of that
character, and an offset past the end gives the end. -/
namespace ObjectOutline

/-- A line and a column in a text, both counted from zero. -/
structure Position where
  line : Nat
  column : Nat
  deriving DecidableEq, Repr, Inhabited

namespace Position

/-- The start of a text. -/
def start : Position := ⟨0, 0⟩

/-- The position after one more character. Only a line feed starts a line. -/
def advance (position : Position) (c : Char) : Position :=
  if c = '\n' then ⟨position.line + 1, 0⟩ else ⟨position.line, position.column + 1⟩

/-- Walks over the characters that lie wholly before the byte offset. -/
def walk (position : Position) : List Char → Nat → Position
  | [], _ => position
  | c :: rest, offset =>
    if c.utf8Size ≤ offset then walk (position.advance c) rest (offset - c.utf8Size) else position

/-- The position of a byte offset in a text. -/
def ofOffset (text : List Char) (offset : Nat) : Position :=
  walk start text offset

/-- Line and column as people count them, from one. -/
def render (position : Position) : String :=
  toString (position.line + 1) ++ ":" ++ toString (position.column + 1)

end Position
end ObjectOutline
