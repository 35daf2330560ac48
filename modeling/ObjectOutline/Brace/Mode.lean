/-! What a character of a source means depends on the text before it. A `Mode` says what the text so
far has left open, and `Mode.step` reads one more character. A brace counts only where the mode
reads code: not in a literal `'…'`, a quoted identifier, a line comment or a block comment.

Literals and quoted identifiers end at a line feed at the latest. An apostrophe inside a literal is
written twice. Both that rule and the comment openers look at two characters; the modes `slash`,
`apostrophe` and `star` remember the first of the two, so that no step looks ahead. -/
namespace ObjectOutline

/-- What the text so far has left open. -/
inductive Mode where
  /-- Nothing is open. -/
  | code
  /-- Code whose last character is a slash, which may open a comment. -/
  | slash
  /-- Inside a literal. -/
  | literal
  /-- After an apostrophe that ended a literal, unless another one follows. -/
  | apostrophe
  /-- Inside a quoted identifier. -/
  | quotedIdentifier
  /-- Inside a comment that ends with its line. -/
  | lineComment
  /-- Inside a block comment. -/
  | blockComment
  /-- Inside a block comment whose last character is a star, which a slash would close. -/
  | star
  deriving DecidableEq, Repr, Inhabited

namespace Mode

/-- Braces count in this mode. -/
def readsCode : Mode → Bool
  | code | slash | apostrophe => true
  | literal | quotedIdentifier | lineComment | blockComment | star => false

/-- The mode after a character of code. -/
def afterCode (c : Char) : Mode :=
  if c = '\'' then literal
  else if c = '"' then quotedIdentifier
  else if c = '/' then slash
  else code

/-- The mode after one more character. -/
def step : Mode → Char → Mode
  | code, c => afterCode c
  | slash, c => if c = '/' then lineComment else if c = '*' then blockComment else afterCode c
  | literal, c => if c = '\'' then apostrophe else if c = '\n' then code else literal
  | apostrophe, c => if c = '\'' then literal else afterCode c
  | quotedIdentifier, c => if c = '"' ∨ c = '\n' then code else quotedIdentifier
  | lineComment, c => if c = '\n' then code else lineComment
  | blockComment, c => if c = '*' then star else blockComment
  | star, c => if c = '/' then code else if c = '*' then star else blockComment

/-- The mode after a whole text. -/
def run (mode : Mode) (text : List Char) : Mode :=
  text.foldl step mode

/-- The character is an opening brace of code. -/
def opens (mode : Mode) (c : Char) : Bool :=
  mode.readsCode && c == '{'

/-- The character is a closing brace of code. -/
def closes (mode : Mode) (c : Char) : Bool :=
  mode.readsCode && c == '}'

@[simp] theorem run_nil (mode : Mode) : mode.run [] = mode := rfl

@[simp] theorem run_cons (mode : Mode) (c : Char) (text : List Char) :
    mode.run (c :: text) = (mode.step c).run text := rfl

@[simp] theorem run_append (mode : Mode) (left right : List Char) :
    mode.run (left ++ right) = (mode.run left).run right := by
  simp [run]

theorem opens_iff {mode : Mode} {c : Char} :
    mode.opens c = true ↔ mode.readsCode = true ∧ c = '{' := by
  simp [opens]

theorem closes_iff {mode : Mode} {c : Char} :
    mode.closes c = true ↔ mode.readsCode = true ∧ c = '}' := by
  simp [closes]

theorem eq_of_opens {mode : Mode} {c : Char} (h : mode.opens c = true) : c = '{' :=
  (opens_iff.mp h).2

theorem eq_of_closes {mode : Mode} {c : Char} (h : mode.closes c = true) : c = '}' :=
  (closes_iff.mp h).2

theorem step_of_opens {mode : Mode} {c : Char} (h : mode.opens c = true) : mode.step c = code := by
  obtain ⟨hMode, rfl⟩ := opens_iff.mp h
  cases mode <;> simp_all [readsCode, step, afterCode]

theorem step_of_closes {mode : Mode} {c : Char} (h : mode.closes c = true) :
    mode.step c = code := by
  obtain ⟨hMode, rfl⟩ := closes_iff.mp h
  cases mode <;> simp_all [readsCode, step, afterCode]

end Mode
end ObjectOutline
