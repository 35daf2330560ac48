import ObjectOutline.Property
import ObjectOutline.Proofs.Text.Tokens

/-! Property lines and the lines between them, as data. A filler is a line that says nothing: it is
quiet and it is not a property. Reading the lines of a text written from such data gives back the
properties, in order, whatever fillers and indentation stand around them. -/
namespace ObjectOutline

namespace Property

theorem ofLine?_of_isBlank {blanks : List Char} (h : ∀ c ∈ blanks, Text.isBlank c = true) :
    ofLine? blanks = none := by
  rw [ofLine?, Text.trim_of_isBlank h]
  rfl

theorem ofLine?_append_of_isBlank {blanks : List Char} (h : ∀ c ∈ blanks, Text.isBlank c = true)
    (line : List Char) : ofLine? (blanks ++ line) = ofLine? line := by
  rw [ofLine?, Text.trim_append_of_isBlank h, ofLine?]

/-- The properties before a line feed come before those behind it. -/
theorem ofLines_append (left right : List Char) :
    ofLines (left ++ '\n' :: right) = ofLines left ++ ofLines right := by
  rw [ofLines, Text.lines_append, List.filterMap_append, ofLines, ofLines]

theorem ofLines_of_not_mem {line : List Char} (h : '\n' ∉ line) :
    ofLines line = (ofLine? line).toList := by
  rw [ofLines, Text.lines_of_not_mem h]
  cases hLine : ofLine? line <;> simp [hLine]

/-- Whole lines are read by themselves. -/
theorem ofLines_append_of_endsLine {left : List Char} (h : Text.EndsLine left) (right : List Char) :
    ofLines (left ++ right) = ofLines left ++ ofLines right := by
  have hNil : ofLines [] = [] := rfl
  rcases h with rfl | ⟨before, rfl⟩
  · rw [hNil, List.nil_append, List.nil_append]
  · rw [List.append_assoc, List.singleton_append, ofLines_append, ofLines_append, hNil,
      List.append_nil]

/-- Blanks in front of a text hold no property and hide none. -/
theorem ofLines_append_of_isBlank {blanks : List Char} (h : ∀ c ∈ blanks, Text.isBlank c = true)
    (text : List Char) : ofLines (blanks ++ text) = ofLines text := by
  induction blanks with
  | nil => rfl
  | cons c blanks ih =>
      obtain ⟨hHead, hRest⟩ := List.forall_mem_cons.mp h
      rw [← ih hRest, List.cons_append]
      by_cases hFeed : c = '\n'
      · rw [hFeed, ← List.nil_append ('\n' :: _), ofLines_append]
        rfl
      · rw [ofLines, ofLines, Text.lines, Text.splitAll, if_neg hFeed, Text.lines]
        cases hLines : Text.splitAll '\n' (blanks ++ text) with
        | nil => exact absurd hLines (Text.splitAll_ne_nil _ _)
        | cons line lines =>
            have hLine : ofLine? ([c] ++ line) = ofLine? line := by
              apply ofLine?_append_of_isBlank
              simpa using hHead
            simp only [List.filterMap_cons, ← hLine, List.singleton_append]

theorem ofLines_of_isBlank {blanks : List Char} (h : ∀ c ∈ blanks, Text.isBlank c = true) :
    ofLines blanks = [] := by
  rw [← List.append_nil blanks, ofLines_append_of_isBlank h]
  rfl

end Property

namespace Written

/-- Part of a line that shows no brace of code and leaves no block comment open. -/
structure QuietText where
  chars : List Char
  noLineFeed : '\n' ∉ chars
  quiet : Text.IsQuiet chars

/-- The blanks that a line starts with. -/
structure Indent where
  chars : List Char
  blank : chars.all Text.isBlank = true
  noLineFeed : '\n' ∉ chars

structure Identifier where
  chars : List Char
  valid : Text.isIdentifier chars = true

/-- A line that is neither a property nor part of a block. -/
structure Filler extends QuietText where
  notProperty : Property.ofLine? chars = none

structure Value extends QuietText where
  trimmed : Text.trim chars = chars

/-- A property, with the fillers in front of its line and the indentation of the line. -/
structure PropertyLine where
  fillers : List Filler
  indent : Indent
  name : Identifier
  value : Value

theorem Indent.isBlank_of_mem (indent : Indent) : ∀ c ∈ indent.chars, Text.isBlank c = true :=
  List.all_eq_true.mp indent.blank

theorem Indent.passes (indent : Indent) : Mode.code.Passes indent.chars .code :=
  Mode.passes_of_isPlain fun c hc => Mode.isPlain_of_isBlank (indent.isBlank_of_mem c hc)

theorem Identifier.noLineFeed (name : Identifier) : '\n' ∉ name.chars := by
  intro hMem
  exact absurd (Text.isIdentifierRest_of_mem name.valid _ hMem) (by decide)

theorem Identifier.not_isBlank (name : Identifier) :
    ∀ c ∈ name.chars, Text.isBlank c = false := by
  intro c hc
  exact Text.not_isBlank_of_isIdentifierRest (Text.isIdentifierRest_of_mem name.valid c hc)

theorem Identifier.trim_chars (name : Identifier) : Text.trim name.chars = name.chars :=
  Text.trim_of_not_isBlank name.not_isBlank

theorem Identifier.ne_nil (name : Identifier) : name.chars ≠ [] := by
  intro hNil
  have hValid := name.valid
  rw [hNil] at hValid
  simp [Text.isIdentifier] at hValid

theorem Identifier.passes (name : Identifier) : Mode.code.Passes name.chars .code :=
  Mode.passes_of_isPlain fun c hc =>
    Mode.isPlain_of_isIdentifierRest (Text.isIdentifierRest_of_mem name.valid c hc)

/-- The fillers, each on a line of its own. -/
def fillerLines (fillers : List Filler) : List Char :=
  fillers.flatMap fun filler => filler.chars ++ ['\n']

theorem fillerLines_cons (filler : Filler) (fillers : List Filler) :
    fillerLines (filler :: fillers) = filler.chars ++ '\n' :: fillerLines fillers := by
  simp [fillerLines]

theorem passes_fillerLines (fillers : List Filler) :
    Mode.code.Passes (fillerLines fillers) .code := by
  induction fillers with
  | nil => exact Mode.Passes.nil _
  | cons filler rest ih =>
      rw [fillerLines_cons, ← List.singleton_append, ← List.append_assoc]
      exact filler.quiet.passes_line.append ih

theorem endsLine_fillerLines (fillers : List Filler) : Text.EndsLine (fillerLines fillers) := by
  induction fillers with
  | nil => exact Or.inl rfl
  | cons filler rest ih =>
      rw [fillerLines_cons, ← List.singleton_append, ← List.append_assoc]
      exact Text.EndsLine.append (Or.inr ⟨filler.chars, rfl⟩) ih

theorem ofLines_fillerLines_append (fillers : List Filler) (rest : List Char) :
    Property.ofLines (fillerLines fillers ++ rest) = Property.ofLines rest := by
  induction fillers with
  | nil => rfl
  | cons filler fillers ih =>
      rw [fillerLines_cons, List.append_assoc, List.cons_append, Property.ofLines_append, ih,
        Property.ofLines_of_not_mem filler.noLineFeed, filler.notProperty]
      rfl

namespace PropertyLine

/-- The line `name = value;` without its indentation. -/
def line (property : PropertyLine) : List Char :=
  property.name.chars ++ [' ', '=', ' '] ++ (property.value.chars ++ [';'])

/-- The fillers, and then the property on a line of its own. -/
def text (property : PropertyLine) : List Char :=
  fillerLines property.fillers ++ (property.indent.chars ++ property.line ++ ['\n'])

def property (line : PropertyLine) : Property :=
  ⟨String.ofList line.name.chars, String.ofList line.value.chars⟩

variable (line : PropertyLine)

theorem line_noLineFeed : '\n' ∉ line.line := by
  simp [PropertyLine.line, line.name.noLineFeed, line.value.noLineFeed]

theorem trim_line : Text.trim line.line = line.line := by
  have hSemicolon : Text.trim [';'] = [';'] := by decide
  have hTrim := Text.trim_between line.name.trim_chars line.name.ne_nil hSemicolon (by simp)
    ([' ', '=', ' '] ++ line.value.chars)
  simpa [PropertyLine.line] using hTrim

/-- Behind the equals sign, the value and its semicolon are what is left. -/
theorem trim_value :
    Text.trim (' ' :: (line.value.chars ++ [';'])) = line.value.chars ++ [';'] := by
  rw [Text.trim_space_cons]
  exact Text.trim_append_singleton line.value.trimmed (by decide)

theorem dropSemicolon_value :
    Property.dropSemicolon (line.value.chars ++ [';']) = line.value.chars := by
  have hValue := (Text.trim_eq_self_iff _).mp line.value.trimmed
  rw [Property.dropSemicolon, if_pos List.getLast?_concat, List.dropLast_concat]
  exact (Text.trimEnd_eq_self_iff _).mpr hValue.2

/-- A property line is read as its property. -/
theorem ofLine?_line : Property.ofLine? line.line = some line.property := by
  have hSplit : Text.splitIdentifier? line.line =
      some (line.name.chars, ' ' :: '=' :: ' ' :: (line.value.chars ++ [';'])) := by
    rw [PropertyLine.line, List.append_assoc]
    exact Text.splitIdentifier?_append line.name.valid (by simp; rfl)
  have hEquals : Text.trimStart (' ' :: '=' :: ' ' :: (line.value.chars ++ [';'])) =
      '=' :: ' ' :: (line.value.chars ++ [';']) := by
    rw [Text.trimStart_cons_of_isBlank (by decide), Text.trimStart_cons_of_not_isBlank (by decide)]
  have hOneLine : ¬(line.value.chars ++ [';']).contains '\n' = true := by
    simp [line.value.noLineFeed]
  rw [Property.ofLine?, line.trim_line, hSplit]
  simp only [hEquals, line.trim_value]
  rw [if_neg hOneLine, line.dropSemicolon_value]
  rfl

theorem passes_line : Mode.code.Passes (line.line ++ ['\n']) .code := by
  have hEquals : Mode.code.Passes [' ', '=', ' '] .code := ⟨rfl, rfl⟩
  have hValue := line.value.quiet.append_singleton ';' (by decide) (by decide) (by decide)
  exact (Text.IsQuiet.of_passes_append (line.name.passes.append hEquals) hValue).passes_line

/-- The lines of a property leave nothing open. -/
theorem passes_text : Mode.code.Passes line.text .code := by
  rw [text, List.append_assoc line.indent.chars]
  exact (passes_fillerLines line.fillers).append (line.indent.passes.append line.passes_line)

theorem endsLine_text : Text.EndsLine line.text :=
  Or.inr ⟨fillerLines line.fillers ++ (line.indent.chars ++ line.line),
    (List.append_assoc _ _ _).symm⟩

/-- The lines of a property add that property. -/
theorem ofLines_text_append (rest : List Char) :
    Property.ofLines (line.text ++ rest) = line.property :: Property.ofLines rest := by
  have hOneLine : '\n' ∉ line.indent.chars ++ line.line := by
    simp [line.indent.noLineFeed, line.line_noLineFeed]
  rw [text, List.append_assoc, ofLines_fillerLines_append, List.append_assoc, List.singleton_append,
    Property.ofLines_append, Property.ofLines_of_not_mem hOneLine,
    Property.ofLine?_append_of_isBlank line.indent.isBlank_of_mem, line.ofLine?_line]
  rfl

end PropertyLine

/-- The property lines, one after another. -/
def propertyLines (lines : List PropertyLine) : List Char :=
  lines.flatMap PropertyLine.text

theorem passes_propertyLines (lines : List PropertyLine) :
    Mode.code.Passes (propertyLines lines) .code := by
  induction lines with
  | nil => exact Mode.Passes.nil _
  | cons line rest ih => exact line.passes_text.append ih

theorem endsLine_propertyLines (lines : List PropertyLine) :
    Text.EndsLine (propertyLines lines) := by
  induction lines with
  | nil => exact Or.inl rfl
  | cons line rest ih => exact line.endsLine_text.append ih

/-- Property lines are read as their properties. -/
theorem ofLines_propertyLines_append (lines : List PropertyLine) (rest : List Char) :
    Property.ofLines (propertyLines lines ++ rest) =
      lines.map PropertyLine.property ++ Property.ofLines rest := by
  induction lines with
  | nil => rfl
  | cons line lines ih =>
      rw [propertyLines, List.flatMap_cons, List.append_assoc, line.ofLines_text_append,
        ← propertyLines, ih]
      rfl

end Written
end ObjectOutline
