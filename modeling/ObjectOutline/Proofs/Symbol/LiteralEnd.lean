import ObjectOutline.Proofs.Brace.Bytes
import ObjectOutline.Proofs.Symbol.Literal

/-! Where a literal ends. The reader of captions and the readers of braces each have a state of their own
for a literal, and each knows by itself that a doubled apostrophe does not end it. They stop behind the same
apostrophe, and what they have read up to it is the literal of a caption, so a caption is read back from its
literal whatever follows. -/
namespace ObjectOutline

/-- The bytes behind the one at which a reader that looks ahead is first back in code, with nothing left to
skip. -/
def ByteState.untilCode? (state : ByteState) (skips : Bool) : List UInt8 → Option (List UInt8)
  | [] => none
  | byte :: rest =>
      let next := if skips then (state, false) else state.step byte rest.head?
      if next = (code, false) then some rest else untilCode? next.1 next.2 rest

/-- The text behind the character at which the modes are first back in code, whatever follows it. -/
def Mode.untilCode? (mode : Mode) : List Char → Option (List Char)
  | [] => none
  | c :: rest =>
      if (mode.step c).ahead rest.head? = (.code, false) then some rest else (mode.step c).untilCode? rest

/-- Bytes outside ASCII lead nowhere. -/
theorem ByteState.untilCode?_of_le {state : ByteState} (hState : state ≠ code) {high : List UInt8}
    (h : ∀ byte ∈ high, 128 ≤ byte.toNat) (rest : List UInt8) :
    state.untilCode? false (high ++ rest) = state.untilCode? false rest := by
  induction high with
  | nil => rfl
  | cons byte high ih =>
      obtain ⟨hByte, hHigh⟩ := List.forall_mem_cons.mp h
      rw [List.cons_append, untilCode?, step_of_le hByte, ← ih hHigh]
      simp [hState]

/-- The two readers of braces come back to code together. -/
theorem Mode.untilCode?_bytes (mode : Mode) (text : List Char)
    (h : mode.ahead text.head? ≠ (.code, false)) :
    (mode.ahead text.head?).1.untilCode? (mode.ahead text.head?).2 (Text.bytes text) =
      (mode.untilCode? text).map Text.bytes := by
  induction text generalizing mode with
  | nil => rfl
  | cons c rest ih =>
      rw [List.head?_cons] at h
      rw [List.head?_cons, Text.bytes_cons, untilCode?]
      by_cases hc : c.toNat < 128
      · rw [Text.utf8EncodeChar_of_lt hc, List.singleton_append, ByteState.untilCode?, ahead_next hc]
        split
        · rfl
        · next hOpen => exact ih _ hOpen
      · -- Such a character leaves the reader where it is, and this is not in code.
        have hHigh := Nat.not_lt.mp hc
        obtain ⟨hSkips, hAhead, -⟩ := @ahead_step_of_le mode c hHigh rest.head?
        have hState : (mode.ahead (some c)).1 ≠ .code := fun hCode => h (Prod.ext hCode hSkips)
        have hOpen : (mode.step c).ahead rest.head? ≠ (.code, false) := fun hCode =>
          hState (congrArg Prod.fst (hAhead.symm.trans hCode))
        have hRest := ih (mode.step c) hOpen
        rw [hAhead] at hRest
        rw [hSkips, ByteState.untilCode?_of_le hState (Text.le_of_mem_utf8EncodeChar hHigh), hRest,
          if_neg hOpen]

namespace Caption

/-- What has been read is a caption as a literal writes it, with the apostrophe that ends the literal. -/
theorem eq_of_splitLiteral? {rest content after : List Char}
    (h : splitLiteral? rest = some (content, after)) :
    rest = written content ++ '\'' :: after ∧ after.head? ≠ some '\'' := by
  fun_induction splitLiteral? rest generalizing content with
  | case1 => cases h
  | case2 rest ih =>
      obtain ⟨⟨inner, behind⟩, hInner, hParts⟩ := Option.map_eq_some_iff.mp h
      obtain ⟨rfl, rfl⟩ := Prod.mk.inj hParts
      obtain ⟨hRest, hAfter⟩ := ih hInner
      exact ⟨by rw [hRest, written_cons, writtenChar, if_pos rfl]; rfl, hAfter⟩
  | case3 behind hSingle =>
      obtain ⟨rfl, rfl⟩ := Prod.mk.inj (Option.some.inj h)
      refine ⟨rfl, fun hHead => ?_⟩
      obtain ⟨tail, rfl⟩ := List.head?_eq_some_iff.mp hHead
      exact hSingle tail rfl
  | case4 c rest hDoubled hQuote ih =>
      obtain ⟨⟨inner, behind⟩, hInner, hParts⟩ := Option.map_eq_some_iff.mp h
      obtain ⟨rfl, rfl⟩ := Prod.mk.inj hParts
      obtain ⟨hRest, hAfter⟩ := ih hInner
      exact ⟨by rw [hRest, written_cons, writtenChar, if_neg hQuote]; rfl, hAfter⟩

theorem splitLiteral?_eq_some_iff (rest content after : List Char) :
    splitLiteral? rest = some (content, after) ↔
      '\'' :: rest = literal content ++ after ∧ after.head? ≠ some '\'' := by
  have hLiteral : literal content ++ after = '\'' :: (written content ++ '\'' :: after) := by
    simp [literal]
  rw [hLiteral, List.cons.injEq]
  constructor
  · intro h
    obtain ⟨hRest, hAfter⟩ := eq_of_splitLiteral? h
    exact ⟨⟨rfl, hRest⟩, hAfter⟩
  · rintro ⟨⟨-, rfl⟩, hAfter⟩
    exact splitLiteral?_written content hAfter

/-- The modes stay in the literal for as long as the reader of captions reads it. -/
theorem untilCode?_literal {rest : List Char} (h : '\n' ∉ rest) :
    Mode.literal.untilCode? rest = (splitLiteral? rest).map Prod.snd := by
  fun_induction splitLiteral? rest with
  | case1 => rfl
  | case2 rest ih =>
      have hRest : '\n' ∉ rest := fun hFeed => h (by simp [hFeed])
      rw [Mode.untilCode?, if_neg (by simp [Mode.step, Mode.ahead]), Mode.untilCode?,
        if_neg (by simp [Mode.step, Mode.ahead]), Option.map_map]
      exact ih hRest
  | case3 after hSingle =>
      have hHead : after.head? ≠ some '\'' := by
        intro hHead
        obtain ⟨tail, rfl⟩ := List.head?_eq_some_iff.mp hHead
        exact hSingle tail rfl
      rw [Mode.untilCode?, if_pos (by simp [Mode.step, Mode.ahead, hHead])]
      rfl
  | case4 c rest hDoubled hQuote ih =>
      rw [List.mem_cons, not_or] at h
      have hNoQuote : c ≠ '\'' := hQuote
      have hStep : Mode.literal.step c = .literal := by simp [Mode.step, hNoQuote, Ne.symm h.1]
      rw [Mode.untilCode?, hStep, if_neg (by simp [Mode.ahead]), Option.map_map]
      exact ih h.2

/-- Read from code, the apostrophe in front starts a literal. -/
theorem untilCode?_bytes_cons_quote (rest : List Char) :
    ByteState.code.untilCode? false (Text.bytes ('\'' :: rest)) =
      (Mode.literal.untilCode? rest).map Text.bytes := by
  rw [← Mode.literal.untilCode?_bytes rest (by simp [Mode.ahead]), Text.bytes_cons,
    Text.utf8EncodeChar_of_lt (by decide), List.singleton_append, ByteState.untilCode?]
  simp [ByteState.step, Mode.ahead]

/-- The end of a literal. For a value that starts with an apostrophe and is of one line, there is a literal
to read exactly when the readers of braces come back to code, and all three go on behind the same apostrophe:
what is in front of it is a caption written as a literal, and no apostrophe follows. So whatever such a
literal is followed by, its caption is read from it, and it decides what an object with that property is
called. -/
theorem literal_ends_together :
    (∀ rest, '\n' ∉ rest →
      ((firstLiteral? ('\'' :: rest)).isSome ↔
        (ByteState.code.untilCode? false (Text.bytes ('\'' :: rest))).isSome) ∧
      firstLiteral? ('\'' :: rest) = (splitLiteral? rest).map (fun parts => Text.trim parts.1) ∧
      Mode.code.untilCode? ('\'' :: rest) = (splitLiteral? rest).map Prod.snd ∧
      ByteState.code.untilCode? false (Text.bytes ('\'' :: rest)) =
        (splitLiteral? rest).map (fun parts => Text.bytes parts.2) ∧
      ∀ content after, splitLiteral? rest = some (content, after) ↔
        '\'' :: rest = literal content ++ after ∧ after.head? ≠ some '\'') ∧
    ∀ content after, after.head? ≠ some '\'' →
      firstLiteral? (literal content ++ after) = some (Text.trim content) ∧
      ∀ before later name, (∀ p ∈ before, p.name ≠ "Caption") →
        resolve (before ++ ⟨"Caption", String.ofList (literal content ++ after)⟩ :: later) name =
          String.ofList (Text.trim content) := by
  refine ⟨fun rest hLine => ?_, fun content after hAfter => ?_⟩
  · have hModes : Mode.code.untilCode? ('\'' :: rest) = (splitLiteral? rest).map Prod.snd := by
      rw [Mode.untilCode?, if_neg (by simp [Mode.step, Mode.afterCode, Mode.ahead])]
      exact untilCode?_literal hLine
    have hBytes : ByteState.code.untilCode? false (Text.bytes ('\'' :: rest)) =
        (splitLiteral? rest).map fun parts => Text.bytes parts.2 := by
      rw [untilCode?_bytes_cons_quote, untilCode?_literal hLine, Option.map_map]
      rfl
    refine ⟨?_, firstLiteral?_cons_quote rest, hModes, hBytes, splitLiteral?_eq_some_iff rest⟩
    rw [firstLiteral?_cons_quote, hBytes, Option.isSome_map, Option.isSome_map]
  · have hFirst := firstLiteral?_literal_append content hAfter
    refine ⟨hFirst, fun before later name hBefore => ?_⟩
    rw [resolve_eq_ofValue hBefore, ofValue, hFirst]
    rfl

/-- A literal that holds two apostrophes next to each other, ends with one, and is not the only one. -/
def quotedName : List Char :=
  "'d''''é'' ', Comment = 'x'".toList

theorem literal_ends_together_quotedName :
    '\n' ∉ quotedName.tail ∧ quotedName = literal "d''é' ".toList ++ ", Comment = 'x'".toList ∧
      (", Comment = 'x'".toList).head? ≠ some '\'' ∧
      ByteState.code.untilCode? false (Text.bytes quotedName) = some (Text.bytes ", Comment = 'x'".toList) ∧
      firstLiteral? quotedName = some "d''é'".toList ∧
      resolve [⟨"Editable", "No"⟩, ⟨"Caption", String.ofList quotedName⟩] "Name" = "d''é'" := by
  have hLine : '\n' ∉ quotedName.tail := by decide
  have hText : quotedName = literal "d''é' ".toList ++ ", Comment = 'x'".toList := by decide
  have hAfter : (", Comment = 'x'".toList).head? ≠ some '\'' := by decide
  have hTrim : Text.trim "d''é' ".toList = "d''é'".toList := by decide
  obtain ⟨-, -, -, hBytes, hSplit⟩ := literal_ends_together.1 quotedName.tail hLine
  obtain ⟨hFirst, hResolve⟩ := literal_ends_together.2 "d''é' ".toList _ hAfter
  refine ⟨hLine, hText, hAfter, ?_, ?_, ?_⟩
  · rw [(hSplit _ _).mpr ⟨hText, hAfter⟩] at hBytes
    exact hBytes
  · rw [hText, hFirst, hTrim]
  · rw [hText]
    refine (hResolve [⟨"Editable", "No"⟩] [] "Name" (by simp)).trans ?_
    rw [hTrim]
    rfl

end Caption
end ObjectOutline
