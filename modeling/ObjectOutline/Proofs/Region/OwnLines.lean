import ObjectOutline.Proofs.Region.Replacement
import ObjectOutline.Proofs.Text.LastFilled
import ObjectOutline.Proofs.Written.PropertyLine

/-! Pieces of a source on lines of their own. No property is read across the borders of such a piece, and no
header either when a line behind it is filled before the next block opens. So two such pieces are read alike
when no line of theirs is a property. -/
namespace ObjectOutline

namespace Text

variable {before piece after : List Char}

/-- What stands between the two texts stands on lines of its own. -/
structure OwnLines (before after : List Char) : Prop where
  starts : ∃ front blanks, before = front ++ blanks ∧ EndsLine front ∧
    ∀ c ∈ blanks, isBlank c = true
  ends : after = [] ∨ ∃ rest, after = '\n' :: rest

namespace OwnLines

/-- The lines before and behind are read by themselves. -/
theorem ofLines_eq (h : OwnLines before after) (hPiece : Property.ofLines piece = []) :
    Property.ofLines (before ++ (piece ++ after)) =
      Property.ofLines before ++ Property.ofLines after := by
  obtain ⟨front, blanks, rfl, hFront, hBlanks⟩ := h.starts
  have hAfter : Property.ofLines (piece ++ after) = Property.ofLines after := by
    rcases h.ends with rfl | ⟨rest, rfl⟩
    · rw [List.append_nil, hPiece]
      rfl
    · rw [Property.ofLines_append, hPiece, ← List.nil_append ('\n' :: rest), Property.ofLines_append]
      rfl
  rw [List.append_assoc, Property.ofLines_append_of_endsLine hFront,
    Property.ofLines_append_of_isBlank hBlanks, hAfter, Property.ofLines_append_of_endsLine hFront,
    Property.ofLines_of_isBlank hBlanks, List.append_nil]

/-- Nothing in front of a character that is not blank reaches into the line. -/
theorem of_append_cons {left right : List Char} {c : Char} (h : OwnLines (left ++ c :: right) after)
    (hFilled : isBlank c = false) : OwnLines right after := by
  obtain ⟨front, blanks, hText, hFront, hBlanks⟩ := h.starts
  refine ⟨?_, h.ends⟩
  rcases List.append_eq_append_iff.mp hText with ⟨middle, hFrontEq, hRight⟩ | ⟨middle, -, hBlanksEq⟩
  · cases middle with
    | nil =>
        rw [List.nil_append] at hRight
        rw [← hRight] at hBlanks
        exact absurd (hBlanks c List.mem_cons_self) (by rw [hFilled]; decide)
    | cons d middle =>
        obtain ⟨rfl, rfl⟩ := List.cons.inj hRight
        rw [hFrontEq, List.append_cons] at hFront
        exact ⟨middle, blanks, rfl, hFront.of_append, hBlanks⟩
  · rw [hBlanksEq] at hBlanks
    exact absurd (hBlanks c (List.mem_append_right _ List.mem_cons_self)) (by rw [hFilled]; decide)

theorem of_append {left right : List Char} (h : OwnLines before (left ++ right)) :
    OwnLines before left := by
  refine ⟨h.starts, ?_⟩
  cases left with
  | nil => exact Or.inl rfl
  | cons c left =>
      rcases h.ends with hNil | ⟨rest, hFeed⟩
      · cases hNil
      · obtain ⟨rfl, -⟩ := List.cons.inj hFeed
        exact Or.inr ⟨left, rfl⟩

theorem pre {next : Block} (h : OwnLines before after) (hNext : Block.find? after = some next) :
    OwnLines before next.pre := by
  obtain ⟨inner, hText⟩ := Block.exists_eq_pre_append hNext
  rw [hText] at h
  exact h.of_append

end OwnLines

end Text

namespace Region

variable {before first second after : List Char}

/-- The properties of a block are read off its whole body or off what stands in front of the first block
in it. -/
theorem ofLines_propertyText_congr {body body' : List Char}
    (hWhole : Property.ofLines body = Property.ofLines body')
    (hFront : Option.Rel (fun nested nested' : Block =>
      Property.ofLines nested.pre = Property.ofLines nested'.pre)
        (Block.find? body) (Block.find? body'))
    (keyword : String) (pre : List Char) (rest : Option (List Char)) :
    Property.ofLines (propertyText keyword ⟨pre, body, rest⟩) =
      Property.ofLines (propertyText keyword ⟨pre, body', rest⟩) := by
  simp only [propertyText, Block.isClosed]
  generalize Block.find? body = found at hFront
  generalize Block.find? body' = found' at hFront
  cases hFront with
  | none =>
      by_cases hClosed : rest.isSome = true
      · simp only [hClosed, if_true, hWhole]
      · simp only [hClosed, Bool.false_eq_true, if_false]
  | some hNested =>
      by_cases hField : (keyword == "field" && rest.isSome) = true
      · simp only [hField, if_true, hWhole]
      · simp only [hField, Bool.false_eq_true, if_false, hNested]

/-- In front of the first block, the same properties are read whichever piece stands on lines of its own. -/
theorem rel_find?_of_ownLines (h : Text.OwnLines before after)
    (hFirst : Text.Passed before first after) (hSecond : Text.Passed before second after)
    (hNoFirst : Property.ofLines first = []) (hNoSecond : Property.ofLines second = []) :
    Option.Rel (fun nested nested' : Block =>
      Property.ofLines nested.pre = Property.ofLines nested'.pre)
        (Block.find? (before ++ (first ++ after))) (Block.find? (before ++ (second ++ after))) := by
  cases hBefore : Block.find? before with
  | none =>
      rw [Block.find?_of_passed hBefore hFirst, Block.find?_of_passed hBefore hSecond]
      cases hAfter : Block.find? after with
      | none => exact .none
      | some next =>
          have hNext : Text.OwnLines before next.pre := h.pre hAfter
          apply Option.Rel.some
          rw [hNext.ofLines_eq hNoFirst, hNext.ofLines_eq hNoSecond]
  | some nested =>
      -- The first block stands in front of the piece, and more text does not change where it starts.
      obtain ⟨longer, hLonger, hPre⟩ := Block.exists_find?_append hBefore (first ++ after)
      obtain ⟨longer', hLonger', hPre'⟩ := Block.exists_find?_append hBefore (second ++ after)
      rw [hLonger, hLonger']
      exact .some (by rw [hPre, hPre'])

/-- Around a piece on lines of its own that holds no property, the blocks have the same properties whichever
piece stands there. -/
theorem map_ownProperties_of_ownLines (h : Text.OwnLines before after)
    (hFirst : Text.Passed before first after) (hSecond : Text.Passed before second after)
    (hNoFirst : Property.ofLines first = []) (hNoSecond : Property.ofLines second = [])
    {block : Block} (hBlock : block ∈ (Block.surroundings before).blocks) :
    (Block.find? (block.text ++ (first ++ after))).map Block.ownProperties =
      (Block.find? (block.text ++ (second ++ after))).map Block.ownProperties := by
  induction before using Block.induction generalizing after with
  | none before hNone =>
      rw [Block.surroundings_of_none hNone] at hBlock
      cases hBlock
  | closed before outer post hOuter hPost ihBody ihPost =>
      have hLines : Text.OwnLines post after := by
        rw [hOuter.eq_of_closed hPost] at h
        exact h.of_append_cons (by decide)
      rw [hOuter.surroundings_of_closed hPost] at hBlock
      exact ihPost hLines (hOuter.passed_post hPost hFirst) (hOuter.passed_post hPost hSecond) hBlock
  | unclosed before outer hOuter hPost ihBody =>
      obtain ⟨depth, hDepth⟩ := Option.isSome_iff_exists.mp hOuter.openBraces
      obtain ⟨inside, rest, hInside⟩ := Block.exists_isInside depth after
      have hLines : Text.OwnLines outer.body inside := by
        rw [hOuter.eq_of_unclosed hPost] at h
        have hBody := h.of_append_cons (by decide)
        rcases hInside.text_eq with ⟨rfl, -⟩ | ⟨post, rfl, -⟩
        · exact hBody
        · exact hBody.of_append
      have hFirstInside := hOuter.passed_body hPost hInside hFirst
      have hSecondInside := hOuter.passed_body hPost hInside hSecond
      rw [hOuter.surroundings_of_unclosed hPost] at hBlock
      rcases List.mem_cons.mp hBlock with rfl | hNested
      · rw [hOuter.text_eq, hOuter.find?_of_passed hPost hDepth hInside hFirst,
          hOuter.find?_of_passed hPost hDepth hInside hSecond]
        have hWhole : Property.ofLines (block.body ++ (first ++ inside)) =
            Property.ofLines (block.body ++ (second ++ inside)) := by
          rw [hLines.ofLines_eq hNoFirst, hLines.ofLines_eq hNoSecond]
        have hFront := rel_find?_of_ownLines hLines hFirstInside hSecondInside hNoFirst hNoSecond
        exact congrArg some (ofLines_propertyText_congr hWhole hFront _ _ _)
      · rw [Text.map_ownProperties_inside hOuter hPost hDepth hInside hFirst hNested,
          Text.map_ownProperties_inside hOuter hPost hDepth hInside hSecond hNested]
        exact ihBody hLines hFirstInside hSecondInside hNested

end Region

/-- Pieces on lines of their own that hold no property are read alike when the next block behind them has its
header line there as well. -/
theorem Text.OwnLines.readAlike (h : Text.OwnLines before after) (hFirst : Text.Passed before first after)
    (hSecond : Text.Passed before second after) (hNoFirst : Property.ofLines first = [])
    (hNoSecond : Property.ofLines second = [])
    (hHeader : ∀ next ∈ Block.find? after, Text.lastFilledLine next.pre ≠ []) :
    Text.ReadAlike before first second after where
  properties := fun _ hBlock =>
    Region.map_ownProperties_of_ownLines h hFirst hSecond hNoFirst hNoSecond hBlock
  headers := by
    intro next hNext _
    have hFilled := hHeader next hNext
    rcases (h.pre hNext).ends with hNil | ⟨rest, hFeed⟩
    · rw [hNil] at hFilled
      exact absurd rfl hFilled
    · have hRest : Text.lastFilledLine rest ≠ [] := by
        rw [hFeed] at hFilled
        have hLine : Text.EndsLine ['\n'] := Or.inr ⟨[], rfl⟩
        have hBlank : Text.isBlank '\n' = true := by decide
        rwa [← List.singleton_append,
          Text.lastFilledLine_blank_append hLine (List.forall_mem_singleton.mpr hBlank)] at hFilled
      rw [hFeed, ← List.append_assoc, ← List.append_assoc,
        Text.lastFilledLine_append_of_ne_nil hRest, Text.lastFilledLine_append_of_ne_nil hRest]

end ObjectOutline
