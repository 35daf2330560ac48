import ObjectOutline.Proofs.Brace.Bytes
import ObjectOutline.Proofs.Brace.Passed
import ObjectOutline.Proofs.Text.Lines

/-! Line ends. A reader that looks ahead reads some bytes along with the ones in front of them, but never a
line feed. So each line feed is seen for itself: behind it the reader is in a block comment that was open in
front of it, or back in code. Whatever whole lines leave unfinished, a block comment apart, they hide nothing
of the text that follows them. -/
namespace ObjectOutline

namespace ByteState

/-- Only the second byte of a comment opener, of a doubled apostrophe or of the end of a block comment is
read along with the one in front of it. -/
theorem next_of_skips {state : ByteState} {byte : UInt8} {next : Option UInt8}
    (h : (state.step byte next).2 = true) :
    next = some '/'.toUInt8 ∨ next = some '*'.toUInt8 ∨ next = some '\''.toUInt8 := by
  cases state with
  | code | literal | blockComment =>
      simp only [step] at h
      grind
  | quotedIdentifier | lineComment =>
      simp only [step] at h
      split at h <;> cases h

theorem not_skips_lineFeed (state : ByteState) (byte : UInt8) :
    (state.step byte (some '\n'.toUInt8)).2 = false := by
  apply Bool.eq_false_iff.mpr
  intro hSkips
  exact absurd (next_of_skips hSkips) (by decide)

/-- However the reader has come to a line feed, it does not skip it. -/
theorem run_not_skips_lineFeed (state : ByteState) (front : List UInt8) :
    (run (state, false) (some '\n'.toUInt8) front).2 = false := by
  rcases List.eq_nil_or_concat front with rfl | ⟨init, last, rfl⟩
  · rfl
  · rw [List.concat_eq_append, run_append, run, run]
    split
    · rfl
    · exact not_skips_lineFeed _ last

theorem step_lineFeed (state : ByteState) (next : Option UInt8) :
    state.step '\n'.toUInt8 next =
      (if state = blockComment then blockComment else code, false) := by
  cases state <;> rfl

/-- Behind a line feed the reader is in a block comment that goes on, or in code. What follows has no part
in that. -/
theorem run_lineFeed (state : ByteState) (front : List UInt8) (after : Option UInt8) :
    run (state, false) after (front ++ ['\n'.toUInt8]) =
      (if (run (state, false) (some '\n'.toUInt8) front).1 = blockComment then blockComment else code,
        false) := by
  rw [run_append, run, run, List.head?_cons, Option.some_or, run_not_skips_lineFeed,
    if_neg Bool.false_ne_true, step_lineFeed]

theorem run_of_endsLine {lines : List Char} (hLines : Text.EndsLine lines)
    (hComment : (run (code, false) none (Text.bytes lines)).1 ≠ blockComment)
    (after : Option UInt8) : run (code, false) after (Text.bytes lines) = (code, false) := by
  rcases hLines with rfl | ⟨front, rfl⟩
  · rfl
  · have hBytes : Text.bytes (front ++ ['\n']) = Text.bytes front ++ ['\n'.toUInt8] :=
      Text.bytes_append front ['\n']
    rw [hBytes, run_lineFeed] at hComment
    rw [hBytes, run_lineFeed]
    split at hComment
    · exact absurd rfl hComment
    · next hCode => rw [if_neg hCode]

end ByteState

namespace Mode

/-- Where nothing that may follow keeps the other reader out of code, there is nothing left to decide. -/
theorem eq_code_of_ahead {mode : Mode} (h : ∀ next, mode.ahead next = (.code, false)) :
    mode = code := by
  cases mode with
  | code => rfl
  | slash => exact absurd (h (some '/')) (by decide)
  | apostrophe => exact absurd (h (some '\'')) (by decide)
  | literal | quotedIdentifier | lineComment | blockComment | star =>
      exact absurd (h none) (by decide)

theorem run_of_endsLine {lines : List Char} (hLines : Text.EndsLine lines)
    (hComment : (ByteState.run (.code, false) none (Text.bytes lines)).1 ≠ .blockComment) :
    code.run lines = code := by
  apply eq_code_of_ahead
  intro next
  have hNext : next.toList.head? = next := by cases next <;> rfl
  have hPlace := code.run_bytes lines next.toList
  rw [hNext] at hPlace
  exact hPlace.symm.trans (ByteState.run_of_endsLine hLines hComment _)

end Mode

namespace Block

/-- Line ends bring the search for a block back to where it starts. Let whole lines show no brace of code
and not end inside a block comment; their literals and quoted identifiers need not be finished. Whatever
follows them, a reader of bytes goes on there in code, with nothing to skip. So there is a first block behind
the lines when the text that follows has one, and it is the same block, as many bytes further on as the lines
are long. -/
theorem find?_behind_lines {lines : List Char} (hLines : Text.EndsLine lines)
    (hBraces : ByteState.bracesOf (Text.bytes lines) = [])
    (hComment : (ByteState.run (.code, false) none (Text.bytes lines)).1 ≠ .blockComment)
    (text : List Char) :
    ByteState.run (.code, false) (Text.bytes text).head? (Text.bytes lines) = (.code, false) ∧
      (find? (lines ++ text) = none ↔ find? text = none) ∧
      ∀ block, find? text = some block → ∃ later, find? (lines ++ text) = some later ∧
        later.pre = lines ++ block.pre ∧ later.body = block.body ∧ later.post = block.post ∧
        later.openOffset = block.openOffset + Text.byteLength lines ∧
        later.closeOffset? = block.closeOffset?.map (· + Text.byteLength lines) := by
  have hPasses : Mode.code.Passes lines .code :=
    ⟨(ByteState.bracesOf_bytes lines).symm.trans hBraces, Mode.run_of_endsLine hLines hComment⟩
  have hFind := find?_append_of_passes hPasses text
  refine ⟨ByteState.run_of_endsLine hLines hComment _, ?_, fun block hBlock => ?_⟩
  · rw [hFind, Option.map_eq_none_iff]
  · rw [hBlock, Option.map_some] at hFind
    exact ⟨block.behind lines, hFind, rfl, rfl, rfl, openOffset_behind lines block,
      closeOffset?_behind lines block⟩

/-- Lines of which none is finished: a literal, a quoted identifier, a line comment and a literal behind a
block comment of two lines. Each of them hides a brace. -/
def unfinishedLines : List Char :=
  "'\x7b é'' /*\n\"\x7d //\n// it's \x7b /*\n/* \x7d\n\" */ '\x7b\n".toList

/-- A text whose first block holds a finished literal. -/
def quotedBlock : List Char :=
  "a \x7b '\x7d' \x7d b".toList

/-- The first block is found behind those lines, 43 bytes further on. -/
theorem find?_behind_unfinishedLines :
    Text.EndsLine unfinishedLines ∧
      ByteState.bracesOf (Text.bytes unfinishedLines) = [] ∧
      (ByteState.run (.code, false) none (Text.bytes unfinishedLines)).1 ≠ .blockComment ∧
      find? quotedBlock = some ⟨"a ".toList, " '\x7d' ".toList, some " b".toList⟩ ∧
      ∃ later, find? (unfinishedLines ++ quotedBlock) = some later ∧
        later.pre = unfinishedLines ++ "a ".toList ∧ later.body = " '\x7d' ".toList ∧
        later.post = some " b".toList ∧ later.openOffset = 2 + 43 ∧
        later.closeOffset? = some (8 + 43) := by
  have hLines : Text.EndsLine unfinishedLines := Or.inr ⟨unfinishedLines.dropLast, by decide⟩
  have hBraces : ByteState.bracesOf (Text.bytes unfinishedLines) = [] := by decide
  have hComment :
      (ByteState.run (.code, false) none (Text.bytes unfinishedLines)).1 ≠ .blockComment := by decide
  have hFind : find? quotedBlock =
      some ⟨"a ".toList, " '\x7d' ".toList, some " b".toList⟩ := by decide
  obtain ⟨-, -, hBehind⟩ := find?_behind_lines hLines hBraces hComment quotedBlock
  obtain ⟨later, hLater, hPre, hBody, hPost, hOpen, hClose⟩ := hBehind _ hFind
  exact ⟨hLines, hBraces, hComment, hFind, later, hLater, hPre, hBody, hPost,
    hOpen.trans (by decide), hClose.trans (by decide)⟩

end Block
end ObjectOutline
