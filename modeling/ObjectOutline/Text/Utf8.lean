/-! Reading UTF-8. The bytes of a text are read one at a time, and every byte has to begin a character
or to continue the one before it. -/
namespace ObjectOutline.Text

/-- What is still owed of a character of several bytes: how many bytes, the bounds of the next one,
and the code point so far. -/
structure PendingChar where
  owed : Nat
  low : Nat
  high : Nat
  code : Nat

/-- What one byte yields: the end of a character, or a place inside one. -/
inductive ByteStep where
  | complete (c : Char)
  | inside (pending : PendingChar)

/-- Reads a byte at the start of a character. Forms that are longer than needed, surrogates and code
points beyond the last one are ruled out by the bounds of the second byte. -/
def startChar? (b : Nat) : Option ByteStep :=
  if b < 0x80 then some (.complete (Char.ofNat b))
  else if 0xC2 ≤ b ∧ b ≤ 0xDF then some (.inside ⟨1, 0x80, 0xBF, b - 0xC0⟩)
  else if b = 0xE0 then some (.inside ⟨2, 0xA0, 0xBF, 0⟩)
  else if b = 0xED then some (.inside ⟨2, 0x80, 0x9F, 0xD⟩)
  else if 0xE1 ≤ b ∧ b ≤ 0xEF then some (.inside ⟨2, 0x80, 0xBF, b - 0xE0⟩)
  else if b = 0xF0 then some (.inside ⟨3, 0x90, 0xBF, 0⟩)
  else if b = 0xF4 then some (.inside ⟨3, 0x80, 0x8F, 4⟩)
  else if 0xF1 ≤ b ∧ b ≤ 0xF3 then some (.inside ⟨3, 0x80, 0xBF, b - 0xF0⟩)
  else none

/-- Reads a byte inside a character. -/
def continueChar? (pending : PendingChar) (b : Nat) : Option ByteStep :=
  if pending.low ≤ b ∧ b ≤ pending.high then
    let code := pending.code * 64 + (b - 0x80)
    if pending.owed ≤ 1 then some (.complete (Char.ofNat code))
    else some (.inside ⟨pending.owed - 1, 0x80, 0xBF, code⟩)
  else none

/-- The characters of some bytes, read from inside a character or from between two. -/
def decodeFrom? : Option PendingChar → List UInt8 → Option (List Char)
  | none, [] => some []
  | some _, [] => none
  | pending, b :: rest =>
    let step? := match pending with
      | none => startChar? b.toNat
      | some pending => continueChar? pending b.toNat
    match step? with
    | none => none
    | some (.complete c) => (decodeFrom? none rest).map (c :: ·)
    | some (.inside pending) => decodeFrom? (some pending) rest

/-- The text of some bytes, if they are one. -/
def decode? (bytes : List UInt8) : Option (List Char) :=
  decodeFrom? none bytes

/-- Drops one byte order mark from the start of a text. -/
def dropByteOrderMark : List Char → List Char
  | '\uFEFF' :: rest => rest
  | cs => cs

end ObjectOutline.Text
