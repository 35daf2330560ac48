import ObjectOutline.Proofs.Text.Tokens
import ObjectOutline.Symbol.Caption

/-! Captions written as literals. Every apostrophe of the caption is doubled, so the apostrophe that
ends the literal is the only one that stands alone: the caption is read back from it, and the reader of
braces stays inside the literal up to its end. -/
namespace ObjectOutline.Caption

/-- One character of a caption as a literal writes it. -/
def writtenChar (c : Char) : List Char :=
  if c = '\'' then ['\'', '\''] else [c]

/-- The caption with every apostrophe doubled. -/
def written (caption : List Char) : List Char :=
  caption.flatMap writtenChar

def literal (caption : List Char) : List Char :=
  '\'' :: written caption ++ ['\'']

theorem written_cons (c : Char) (caption : List Char) :
    written (c :: caption) = writtenChar c ++ written caption := rfl

theorem literalBody?_cons_of_ne {c : Char} (h : c ≠ '\'') (rest : List Char) :
    literalBody? (c :: rest) = (literalBody? rest).map (c :: ·) := by
  rw [literalBody?]
  · intro tail hQuote
    exact absurd hQuote h
  · exact h

/-- What a literal holds and the text behind it, read after its opening apostrophe. -/
def splitLiteral? : List Char → Option (List Char × List Char)
  | [] => none
  | '\'' :: '\'' :: rest => (splitLiteral? rest).map fun (content, after) => ('\'' :: content, after)
  | '\'' :: after => some ([], after)
  | c :: rest => (splitLiteral? rest).map fun (content, after) => (c :: content, after)

theorem map_fst_splitLiteral? (rest : List Char) :
    (splitLiteral? rest).map Prod.fst = literalBody? rest := by
  fun_induction splitLiteral? rest with
  | case1 => rfl
  | case2 rest ih =>
      rw [literalBody?, ← ih, Option.map_map, Option.map_map]
      rfl
  | case3 after hSingle =>
      rw [literalBody?]
      · rfl
      · exact hSingle
  | case4 c rest hQuote hDoubled ih =>
      rw [literalBody?_cons_of_ne hDoubled, ← ih, Option.map_map, Option.map_map]
      rfl

theorem splitLiteral?_cons_of_ne {c : Char} (h : c ≠ '\'') (rest : List Char) :
    splitLiteral? (c :: rest) = (splitLiteral? rest).map fun (content, after) => (c :: content, after) := by
  rw [splitLiteral?]
  · intro tail hQuote
    exact absurd hQuote h
  · exact h

/-- A literal is read up to the apostrophe that ends it, whatever its caption and whatever follows. -/
theorem splitLiteral?_written (content : List Char) {after : List Char} (h : after.head? ≠ some '\'') :
    splitLiteral? (written content ++ '\'' :: after) = some (content, after) := by
  induction content with
  | nil =>
      have hSingle (tail : List Char) : after ≠ '\'' :: tail := by
        rintro rfl
        exact h rfl
      rw [written, List.flatMap_nil, List.nil_append, splitLiteral?]
      exact hSingle
  | cons c content ih =>
      rw [written_cons, List.append_assoc]
      by_cases hQuote : c = '\''
      · subst hQuote
        rw [writtenChar, if_pos rfl, List.cons_append, List.singleton_append, splitLiteral?, ih]
        rfl
      · rw [writtenChar, if_neg hQuote, List.singleton_append, splitLiteral?_cons_of_ne hQuote, ih]
        rfl

theorem firstLiteral?_cons_quote (rest : List Char) :
    firstLiteral? ('\'' :: rest) = (splitLiteral? rest).map fun parts => Text.trim parts.1 := by
  rw [firstLiteral?, Text.trimStart_cons_of_not_isBlank (by decide)]
  simp only [← map_fst_splitLiteral?, Option.map_map]
  rfl

theorem firstLiteral?_literal_append (content : List Char) {after : List Char}
    (h : after.head? ≠ some '\'') : firstLiteral? (literal content ++ after) = some (Text.trim content) := by
  have hLiteral : literal content ++ after = '\'' :: (written content ++ '\'' :: after) := by
    simp [literal]
  rw [hLiteral, firstLiteral?_cons_quote, splitLiteral?_written content h]
  rfl

/-- Blanks at either end of a caption do not survive the literal. -/
theorem ofValue_literal (caption : List Char) : ofValue (literal caption) = Text.trim caption := by
  have hLiteral := firstLiteral?_literal_append caption (show [].head? ≠ some '\'' by simp)
  rw [List.append_nil] at hLiteral
  rw [ofValue, hLiteral]
  rfl

/-- The first caption property decides. -/
theorem resolve_eq_ofValue {properties : List Property} (h : ∀ p ∈ properties, p.name ≠ "Caption")
    (value : List Char) (later : List Property) (name : String) :
    resolve (properties ++ ⟨"Caption", String.ofList value⟩ :: later) name =
      String.ofList (ofValue value) := by
  have hNone : properties.find? (fun p => p.name == "Caption") = none := by
    simpa [List.find?_eq_none] using h
  have hLookup : Property.lookup? (properties ++ ⟨"Caption", String.ofList value⟩ :: later) "Caption" =
      some ⟨"Caption", String.ofList value⟩ := by
    rw [Property.lookup?, List.find?_append, hNone, Option.none_or]
    rfl
  rw [resolve, hLookup]
  simp only [String.toList_ofList]

/-- A caption property that comes first decides. -/
theorem resolve_literal (caption : List Char) (properties : List Property) (name : String) :
    resolve (⟨"Caption", String.ofList (literal caption)⟩ :: properties) name =
      String.ofList (Text.trim caption) := by
  have hValue := resolve_eq_ofValue (List.forall_mem_nil _) (literal caption) properties name
  rwa [ofValue_literal] at hValue

/-- Without properties, the name serves as the caption. -/
theorem resolve_nil {name : List Char} (hQuote : '"' ∉ name) (hTrim : Text.trim name = name) :
    resolve [] (String.ofList name) = String.ofList name := by
  have hName : Text.stripQuotes name = name := by
    rw [Text.stripQuotes, Text.filter_bne hQuote, hTrim]
  simp [resolve, Property.lookup?, hName]

theorem noLineFeed_literal {caption : List Char} (h : '\n' ∉ caption) : '\n' ∉ literal caption := by
  have hWritten : '\n' ∉ written caption := by
    rw [written, List.mem_flatMap]
    rintro ⟨c, hc, hMem⟩
    rw [writtenChar] at hMem
    split at hMem
    · simp at hMem
    · exact h (List.mem_singleton.mp hMem ▸ hc)
  simp [literal, hWritten]

theorem trim_literal (caption : List Char) : Text.trim (literal caption) = literal caption := by
  have hQuote : Text.trim ['\''] = ['\''] := by decide
  exact Text.trim_between hQuote (by simp) hQuote (by simp) (written caption)

/-- Inside the literal, nothing of the caption ends it. -/
theorem passes_written {caption : List Char} (h : '\n' ∉ caption) :
    Mode.literal.Passes (written caption) .literal := by
  induction caption with
  | nil => exact Mode.Passes.nil _
  | cons c rest ih =>
      rw [List.mem_cons, not_or] at h
      rw [written_cons]
      apply Mode.Passes.append _ (ih h.2)
      rw [writtenChar]
      split
      · exact ⟨rfl, rfl⟩
      · next hQuote =>
        apply Mode.Passes.of_forall
        intro d hd
        rw [List.mem_singleton.mp hd]
        simp [Mode.step, Mode.opens, Mode.closes, Mode.readsCode, hQuote, Ne.symm h.1]

/-- A caption literal shows no brace of code, whatever the caption holds. -/
theorem isQuiet_literal {caption : List Char} (h : '\n' ∉ caption) :
    Text.IsQuiet (literal caption) := by
  have hOpen : Mode.code.Passes ['\''] .literal := ⟨rfl, rfl⟩
  have hClose : Mode.literal.Passes ['\''] .apostrophe := ⟨rfl, rfl⟩
  exact Text.isQuiet_of_passes ((hOpen.append (passes_written h)).append hClose) rfl

end ObjectOutline.Caption
