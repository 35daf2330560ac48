import ObjectOutline.Proofs.Brace.Nesting

/-! Braces of code, read off bytes. A reader that looks one byte ahead needs five states where the modes
look back by one character, and it can read the bytes of a text, because a byte of a character of several
bytes is none of those it knows. It finds the same braces at the same places. -/
namespace ObjectOutline

/-- The UTF-8 bytes of a text. -/
def Text.bytes (text : List Char) : List UInt8 :=
  text.flatMap String.utf8EncodeChar

/-- What the bytes so far have left open. -/
inductive ByteState where
  | code
  | literal
  | quotedIdentifier
  | lineComment
  | blockComment
  deriving DecidableEq, Repr

namespace ByteState

/-- The state after a byte with a view of the byte behind it, and whether that one is read along with
it. -/
def step (state : ByteState) (byte : UInt8) (next : Option UInt8) : ByteState × Bool :=
  match state with
  | code =>
      if byte = '\''.toUInt8 then (literal, false)
      else if byte = '"'.toUInt8 then (quotedIdentifier, false)
      else if byte = '/'.toUInt8 ∧ next = some '/'.toUInt8 then (lineComment, true)
      else if byte = '/'.toUInt8 ∧ next = some '*'.toUInt8 then (blockComment, true)
      else (code, false)
  | literal =>
      if byte = '\''.toUInt8 ∧ next = some '\''.toUInt8 then (literal, true)
      else if byte = '\''.toUInt8 ∨ byte = '\n'.toUInt8 then (code, false)
      else (literal, false)
  | quotedIdentifier =>
      if byte = '"'.toUInt8 ∨ byte = '\n'.toUInt8 then (code, false) else (quotedIdentifier, false)
  | lineComment => if byte = '\n'.toUInt8 then (code, false) else (lineComment, false)
  | blockComment =>
      if byte = '*'.toUInt8 ∧ next = some '/'.toUInt8 then (code, true) else (blockComment, false)

/-- The braces of code among bytes that start at `offset`. A byte that has been read along with the one
in front of it is skipped. -/
def braces (state : ByteState) (skips : Bool) (offset : Nat) : List UInt8 → List Brace
  | [] => []
  | byte :: rest =>
      if skips then braces state false (offset + 1) rest
      else
        let (after, skipsNext) := state.step byte rest.head?
        let later := braces after skipsNext (offset + 1) rest
        if state = code ∧ byte = '{'.toUInt8 then .opening offset :: later
        else if state = code ∧ byte = '}'.toUInt8 then .closing offset :: later
        else later

/-- The braces of code of a whole source, given as bytes. -/
def bracesOf (bytes : List UInt8) : List Brace :=
  braces .code false 0 bytes

/-- Where the reader stands behind some bytes, and whether it skips the byte that follows them. It starts
at such a place, and `after` is the byte that follows. -/
def run (place : ByteState × Bool) (after : Option UInt8) : List UInt8 → ByteState × Bool
  | [] => place
  | byte :: rest =>
      run (if place.2 then (place.1, false) else place.1.step byte (rest.head?.or after)) after rest

end ByteState

/-- Where a reader that looks ahead stands when the modes stand here and this character is next. -/
def Mode.ahead (mode : Mode) (next : Option Char) : ByteState × Bool :=
  match mode with
  | code => (.code, false)
  | slash =>
      if next = some '/' then (.lineComment, true)
      else if next = some '*' then (.blockComment, true)
      else (.code, false)
  | literal => (.literal, false)
  | apostrophe => if next = some '\'' then (.literal, true) else (.code, false)
  | quotedIdentifier => (.quotedIdentifier, false)
  | lineComment => (.lineComment, false)
  | blockComment => (.blockComment, false)
  | star => if next = some '/' then (.code, true) else (.blockComment, false)

namespace Text

theorem bytes_cons (c : Char) (rest : List Char) :
    bytes (c :: rest) = String.utf8EncodeChar c ++ bytes rest := rfl

theorem bytes_append (left right : List Char) : bytes (left ++ right) = bytes left ++ bytes right :=
  List.flatMap_append

theorem utf8EncodeChar_of_lt {c : Char} (h : c.toNat < 128) :
    String.utf8EncodeChar c = [c.toUInt8] := by
  have hVal : c.val.toNat ≤ 127 := Nat.le_of_lt_succ h
  simp only [String.utf8EncodeChar, if_pos hVal]
  rfl

/-- A character outside ASCII has no byte of an ASCII character. -/
theorem le_of_mem_utf8EncodeChar {c : Char} (h : 128 ≤ c.toNat) :
    ∀ byte ∈ String.utf8EncodeChar c, 128 ≤ byte.toNat := by
  have hVal : ¬c.val.toNat ≤ 127 := Nat.not_le.mpr h
  have hByte {n : Nat} (hLow : 128 ≤ n) (hHigh : n < 256) : 128 ≤ (UInt8.ofNat n).toNat := by
    rw [UInt8.toNat_ofNat']
    omega
  intro byte hMem
  simp only [String.utf8EncodeChar, if_neg hVal] at hMem
  split at hMem
  · simp only [List.mem_cons, List.not_mem_nil, or_false] at hMem
    rcases hMem with rfl | rfl <;> exact hByte (by omega) (by omega)
  · split at hMem
    · simp only [List.mem_cons, List.not_mem_nil, or_false] at hMem
      rcases hMem with rfl | rfl | rfl <;> exact hByte (by omega) (by omega)
    · simp only [List.mem_cons, List.not_mem_nil, or_false] at hMem
      rcases hMem with rfl | rfl | rfl | rfl <;> exact hByte (by omega) (by omega)

theorem toNat_toUInt8 {c : Char} (h : c.toNat < 128) : c.toUInt8.toNat = c.toNat := by
  have hNat : c.toUInt8.toNat = c.toNat % 256 := UInt32.toNat_toUInt8 c.val
  omega

theorem toUInt8_eq_iff {c a : Char} (hc : c.toNat < 128) (ha : a.toNat < 128) :
    c.toUInt8 = a.toUInt8 ↔ c = a := by
  constructor
  · intro h
    have hNat := congrArg UInt8.toNat h
    rw [toNat_toUInt8 hc, toNat_toUInt8 ha] at hNat
    exact Char.toNat_inj.mp hNat
  · exact congrArg Char.toUInt8

theorem ne_toUInt8_of_le {byte : UInt8} (h : 128 ≤ byte.toNat) {a : Char} (ha : a.toNat < 128) :
    byte ≠ a.toUInt8 := by
  rintro rfl
  rw [toNat_toUInt8 ha] at h
  omega

/-- The first byte of a text tells an ASCII character in front. -/
theorem head?_bytes_eq_iff {a : Char} (ha : a.toNat < 128) (text : List Char) :
    (bytes text).head? = some a.toUInt8 ↔ text.head? = some a := by
  cases text with
  | nil => simp [bytes]
  | cons c rest =>
      rw [bytes_cons, List.head?_cons, Option.some.injEq]
      by_cases hc : c.toNat < 128
      · rw [utf8EncodeChar_of_lt hc, List.cons_append, List.head?_cons, Option.some.injEq,
          toUInt8_eq_iff hc ha]
      · have hBytes := le_of_mem_utf8EncodeChar (Nat.not_lt.mp hc)
        have hNe : c ≠ a := fun hEq => hc (hEq ▸ ha)
        cases hCode : String.utf8EncodeChar c with
        | nil => exact absurd hCode String.utf8EncodeChar_ne_nil
        | cons byte more =>
            have hByte := hBytes byte (hCode ▸ List.mem_cons_self)
            rw [List.cons_append, List.head?_cons, Option.some.injEq]
            exact iff_of_false (ne_toUInt8_of_le hByte ha) hNe

end Text

namespace ByteState

variable {state : ByteState}

/-- Bytes outside ASCII leave the state alone. -/
theorem step_of_le {byte : UInt8} (h : 128 ≤ byte.toNat) (next : Option UInt8) :
    state.step byte next = (state, false) := by
  cases state <;> simp [step, Text.ne_toUInt8_of_le h]

/-- They are no braces either. -/
theorem braces_of_le {high : List UInt8} (h : ∀ byte ∈ high, 128 ≤ byte.toNat) (offset : Nat)
    (rest : List UInt8) :
    braces state false offset (high ++ rest) = braces state false (offset + high.length) rest := by
  induction high generalizing offset with
  | nil => rfl
  | cons byte high ih =>
      obtain ⟨hByte, hHigh⟩ := List.forall_mem_cons.mp h
      rw [List.cons_append, braces, step_of_le hByte, List.length_cons, Nat.add_comm high.length,
        ← Nat.add_assoc, ← ih hHigh]
      simp [Text.ne_toUInt8_of_le hByte]

theorem run_of_le {high : List UInt8} (h : ∀ byte ∈ high, 128 ≤ byte.toNat) (after : Option UInt8) :
    run (state, false) after high = (state, false) := by
  induction high with
  | nil => rfl
  | cons byte high ih =>
      obtain ⟨hByte, hHigh⟩ := List.forall_mem_cons.mp h
      rw [run, if_neg Bool.false_ne_true, step_of_le hByte, ih hHigh]

/-- Bytes may be read in two parts; the last one of the first part sees the first one of the second. -/
theorem run_append (place : ByteState × Bool) (after : Option UInt8) (front back : List UInt8) :
    run place after (front ++ back) = run (run place (back.head?.or after) front) after back := by
  induction front generalizing place with
  | nil => rfl
  | cons byte front ih => rw [List.cons_append, run, run, List.head?_append, Option.or_assoc, ih]

end ByteState

namespace Mode

variable {mode : Mode} {c : Char}

/-- A character outside ASCII leaves both readers where they are. -/
theorem ahead_step_of_le (h : 128 ≤ c.toNat) (next : Option Char) :
    (mode.ahead (some c)).2 = false ∧
      (mode.step c).ahead next = ((mode.ahead (some c)).1, false) ∧
        mode.opens c = false ∧ mode.closes c = false := by
  have hNe {a : Char} (ha : a.toNat < 128) : c ≠ a := fun hEq => by
    rw [hEq] at h
    omega
  cases mode <;> simp [step, afterCode, ahead, opens, closes, hNe]

/-- Two characters are read at once where the second one decides what the first one means. -/
theorem skips_iff :
    (mode.ahead (some c)).2 = true ↔
      mode = slash ∧ (c = '/' ∨ c = '*') ∨ mode = apostrophe ∧ c = '\'' ∨ mode = star ∧ c = '/' := by
  cases mode <;> simp only [ahead] <;> grind

/-- Behind the second one of them, the modes are where the other reader already is. -/
theorem ahead_step_of_skips (h : (mode.ahead (some c)).2 = true) (next : Option Char) :
    (mode.step c).ahead next = ((mode.ahead (some c)).1, false) ∧
      mode.opens c = false ∧ mode.closes c = false := by
  rcases skips_iff.mp h with ⟨rfl, rfl | rfl⟩ | ⟨rfl, rfl⟩ | ⟨rfl, rfl⟩ <;> exact ⟨rfl, rfl, rfl⟩

theorem not_skips_iff :
    (mode.ahead (some c)).2 = false ↔
      (mode = slash → c ≠ '/' ∧ c ≠ '*') ∧ (mode = apostrophe → c ≠ '\'') ∧
        (mode = star → c ≠ '/') := by
  rw [← Bool.not_eq_true, skips_iff, not_or, not_or, not_and, not_and, not_and, not_or]

section

variable (hc : c.toNat < 128) (rest : List Char)
include hc

/-- Both readers read a character of code alike. -/
theorem ahead_afterCode :
    ByteState.code.step c.toUInt8 (Text.bytes rest).head? = (afterCode c).ahead rest.head? := by
  by_cases hLiteral : c = '\''
  · simp [afterCode, ahead, ByteState.step, hLiteral]
  · by_cases hQuoted : c = '"'
    · simp [afterCode, ahead, ByteState.step, hQuoted, Text.toUInt8_eq_iff]
    · by_cases hSlash : c = '/'
      · simp [afterCode, ahead, ByteState.step, hSlash, Text.toUInt8_eq_iff, Text.head?_bytes_eq_iff]
      · simp [afterCode, ahead, ByteState.step, hLiteral, hQuoted, hSlash, Text.toUInt8_eq_iff, hc]

theorem ahead_step_literal :
    ByteState.literal.step c.toUInt8 (Text.bytes rest).head? =
      (literal.step c).ahead rest.head? := by
  by_cases hQuote : c = '\''
  · simp [step, ahead, ByteState.step, hQuote, Text.head?_bytes_eq_iff]
  · by_cases hFeed : c = '\n'
    · simp [step, ahead, ByteState.step, hFeed, Text.toUInt8_eq_iff]
    · simp [step, ahead, ByteState.step, hQuote, hFeed, Text.toUInt8_eq_iff, hc]

theorem ahead_step_blockComment :
    ByteState.blockComment.step c.toUInt8 (Text.bytes rest).head? =
      (blockComment.step c).ahead rest.head? := by
  by_cases hStar : c = '*'
  · simp [step, ahead, ByteState.step, hStar, Text.head?_bytes_eq_iff]
  · simp [step, ahead, ByteState.step, hStar, Text.toUInt8_eq_iff, hc]

/-- At any other ASCII character both readers take one step. What the modes remember is then of no
use any more: a slash or an apostrophe stands for code, and a star for its comment. -/
theorem ahead_step_of_not_skips (h : (mode.ahead (some c)).2 = false) :
    (mode.ahead (some c)).1.step c.toUInt8 (Text.bytes rest).head? =
      (mode.step c).ahead rest.head? := by
  obtain ⟨hSlash, hApostrophe, hStar⟩ := not_skips_iff.mp h
  cases mode with
  | code => exact ahead_afterCode hc rest
  | slash =>
      obtain ⟨hNoSlash, hNoStar⟩ := hSlash rfl
      simpa [step, ahead, hNoSlash, hNoStar] using ahead_afterCode hc rest
  | literal => exact ahead_step_literal hc rest
  | apostrophe => simpa [step, ahead, hApostrophe rfl] using ahead_afterCode hc rest
  | quotedIdentifier =>
      by_cases hEnd : c = '"' ∨ c = '\n' <;>
        simp [step, ahead, ByteState.step, hEnd, Text.toUInt8_eq_iff, hc]
  | lineComment =>
      by_cases hFeed : c = '\n' <;>
        simp [step, ahead, ByteState.step, hFeed, Text.toUInt8_eq_iff, hc]
  | blockComment => exact ahead_step_blockComment hc rest
  | star => simpa [step, ahead, hStar rfl] using ahead_step_blockComment hc rest

end

/-- Behind any ASCII character both readers are at the same place, whether this one was skipped or not. -/
theorem ahead_next (hc : c.toNat < 128) (rest : List Char) :
    (if (mode.ahead (some c)).2 = true then ((mode.ahead (some c)).1, false)
      else (mode.ahead (some c)).1.step c.toUInt8 (Text.bytes rest).head?) =
        (mode.step c).ahead rest.head? := by
  split
  · next hSkips => exact (ahead_step_of_skips hSkips _).1.symm
  · next hSkips => exact ahead_step_of_not_skips hc rest (Bool.eq_false_iff.mpr hSkips)

/-- So they are behind the bytes of any character. -/
theorem run_utf8EncodeChar (mode : Mode) (c : Char) (rest : List Char) :
    ByteState.run (mode.ahead (some c)) (Text.bytes rest).head? (String.utf8EncodeChar c) =
      (mode.step c).ahead rest.head? := by
  by_cases hc : c.toNat < 128
  · rw [Text.utf8EncodeChar_of_lt hc, ByteState.run, ByteState.run]
    exact ahead_next hc rest
  · have hHigh := Nat.not_lt.mp hc
    obtain ⟨hSkips, hAhead, -⟩ := @ahead_step_of_le mode c hHigh rest.head?
    have hPlace : mode.ahead (some c) = ((mode.ahead (some c)).1, false) := Prod.ext rfl hSkips
    rw [hPlace, ByteState.run_of_le (Text.le_of_mem_utf8EncodeChar hHigh), hAhead]

/-- The two readers go through a text together, whatever follows it. -/
theorem run_bytes (mode : Mode) (text after : List Char) :
    ByteState.run (mode.ahead (text ++ after).head?) (Text.bytes after).head? (Text.bytes text) =
      (mode.run text).ahead after.head? := by
  induction text generalizing mode with
  | nil => rfl
  | cons c rest ih =>
      rw [Text.bytes_cons, ByteState.run_append, ← List.head?_append, ← Text.bytes_append,
        List.cons_append, List.head?_cons, run_utf8EncodeChar, ih, run_cons]

theorem readsCode_iff (h : (mode.ahead (some c)).2 = false) :
    mode.readsCode = true ↔ (mode.ahead (some c)).1 = .code := by
  obtain ⟨hSlash, hApostrophe, hStar⟩ := not_skips_iff.mp h
  cases mode with
  | slash =>
      obtain ⟨hNoSlash, hNoStar⟩ := hSlash rfl
      simp [ahead, readsCode, hNoSlash, hNoStar]
  | apostrophe => simp [ahead, readsCode, hApostrophe rfl]
  | star => simp [ahead, readsCode, hStar rfl]
  | _ => simp [ahead, readsCode]

/-- The two readers find the same braces, wherever they start. -/
theorem braces_ahead (mode : Mode) (offset : Nat) (text : List Char) :
    (mode.ahead text.head?).1.braces (mode.ahead text.head?).2 offset (Text.bytes text) =
      Brace.ofText mode offset text := by
  induction text generalizing mode offset with
  | nil => simp [Text.bytes, ByteState.braces, Brace.ofText]
  | cons c rest ih =>
      rw [List.head?_cons, Text.bytes_cons]
      by_cases hc : c.toNat < 128
      · have hSize : c.utf8Size = 1 := by
          rw [← String.length_utf8EncodeChar, Text.utf8EncodeChar_of_lt hc]
          rfl
        rw [Text.utf8EncodeChar_of_lt hc, List.singleton_append, ByteState.braces,
          Brace.ofText, hSize, ← ih]
        cases hSkips : (mode.ahead (some c)).2 with
        | true =>
            obtain ⟨hAhead, hOpens, hCloses⟩ := ahead_step_of_skips hSkips rest.head?
            simp [hAhead, hOpens, hCloses]
        | false =>
            have hByte {a : Char} (ha : a.toNat < 128) : c.toUInt8 = a.toUInt8 ↔ c = a :=
              Text.toUInt8_eq_iff hc ha
            simp [ahead_step_of_not_skips hc rest hSkips, opens_iff, closes_iff, readsCode_iff hSkips,
              hByte]
      · have hHigh := Nat.not_lt.mp hc
        have hBytes := Text.le_of_mem_utf8EncodeChar hHigh
        have hRest := ih (mode.step c) (offset + c.utf8Size)
        obtain ⟨hSkips, hAhead, hOpens, hCloses⟩ :=
          @ahead_step_of_le mode c hHigh rest.head?
        rw [hAhead] at hRest
        rw [hSkips, ByteState.braces_of_le hBytes, String.length_utf8EncodeChar, hRest, Brace.ofText]
        simp [hOpens, hCloses]

end Mode

/-- A text read byte by byte has the braces of code that it has read character by character. -/
theorem ByteState.bracesOf_bytes (text : List Char) :
    bracesOf (Text.bytes text) = Nesting.braces text :=
  Mode.code.braces_ahead 0 text

end ObjectOutline
