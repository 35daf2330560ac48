import ObjectOutline.Text.Blank

/-! Lines. A line feed ends a line. A carriage return before it is left in place: every reader of
lines in this library trims them, and a carriage return is blank, so both line endings read
alike. -/
namespace ObjectOutline.Text

/-- The pieces between occurrences of `separator`, one more than there are occurrences. -/
def splitAll (separator : Char) : List Char → List (List Char)
  | [] => [[]]
  | c :: rest =>
    if c = separator then [] :: splitAll separator rest
    else match splitAll separator rest with
      | [] => [[c]]
      | piece :: pieces => (c :: piece) :: pieces

/-- The text before the first `separator` and the text after it; nothing when there is none. -/
def splitFirst? (separator : Char) : List Char → Option (List Char × List Char)
  | [] => none
  | c :: rest =>
    if c = separator then some ([], rest)
    else (splitFirst? separator rest).map fun (left, right) => (c :: left, right)

/-- The lines of a text, without their line feeds. -/
def lines (cs : List Char) : List (List Char) :=
  splitAll '\n' cs

/-- The last line that is not blank, trimmed; empty when every line is blank. -/
def lastFilledLine (cs : List Char) : List Char :=
  (((lines cs).map trim).reverse.find? fun line => !line.isEmpty).getD []

theorem splitAll_ne_nil (separator : Char) (cs : List Char) : splitAll separator cs ≠ [] := by
  cases cs with
  | nil => simp [splitAll]
  | cons c rest =>
    simp only [splitAll]
    split
    · simp
    · split <;> simp

end ObjectOutline.Text
