import ObjectOutline.Proofs.Text.Tokens
import ObjectOutline.Symbol.Arguments

/-! Arguments put together and split again. The first semicolons are the ones between the arguments,
because the arguments in front of them hold none, and the commas between the fields of a key are the
only ones, because the names hold none. -/
namespace ObjectOutline

namespace Text

theorem splitFirst?_append {separator : Char} {left : List Char} (h : separator ∉ left)
    (right : List Char) : splitFirst? separator (left ++ separator :: right) = some (left, right) := by
  induction left with
  | nil => simp [splitFirst?]
  | cons c left ih =>
      rw [List.mem_cons, not_or] at h
      rw [List.cons_append, splitFirst?, if_neg (Ne.symm h.1), ih h.2]
      rfl

/-- What holds of every piece and survives joining two texts holds of all pieces joined. -/
theorem intercalate_induction {motive : List Char → Prop} {separator : List Char}
    {pieces : List (List Char)} (nil : pieces = [] → motive [])
    (piece : ∀ piece ∈ pieces, motive piece)
    (append : ∀ left right, motive left → motive right → motive (left ++ (separator ++ right))) :
    motive (separator.intercalate pieces) := by
  induction pieces with
  | nil => exact nil rfl
  | cons first rest ih =>
      have hFirst := piece first List.mem_cons_self
      cases rest with
      | nil => rwa [List.intercalate_singleton]
      | cons next rest =>
          have hRest := ih (by simp) fun other hOther => piece other (List.mem_cons_of_mem _ hOther)
          rw [List.intercalate_cons_cons, List.append_assoc]
          exact append _ _ hFirst hRest

theorem filter_intercalate (p : Char → Bool) {separator : List Char}
    (h : separator.filter p = separator) (pieces : List (List Char)) :
    (separator.intercalate pieces).filter p = separator.intercalate (pieces.map (List.filter p)) := by
  induction pieces with
  | nil => rfl
  | cons first rest ih =>
      cases rest with
      | nil => simp
      | cons next rest =>
          rw [List.intercalate_cons_cons, List.filter_append, List.filter_append, ih, h]
          simp

/-- A list with a comma and a blank between its pieces falls apart into the pieces, each with the
blank in front of it. -/
theorem splitAll_intercalate {pieces : List (List Char)} (hNonempty : pieces ≠ [])
    (h : ∀ piece ∈ pieces, ',' ∉ piece) :
    splitAll ',' (' ' :: [',', ' '].intercalate pieces) = pieces.map (' ' :: ·) := by
  induction pieces with
  | nil => exact absurd rfl hNonempty
  | cons piece rest ih =>
      have hPiece : ',' ∉ ' ' :: piece := by simp [h piece List.mem_cons_self]
      have hRest : ∀ other ∈ rest, ',' ∉ other := fun other hOther =>
        h other (List.mem_cons_of_mem _ hOther)
      cases rest with
      | nil => rw [List.intercalate_singleton, splitAll_of_not_mem hPiece, List.map_singleton]
      | cons next rest =>
          have hText : ' ' :: [',', ' '].intercalate (piece :: next :: rest) =
              (' ' :: piece) ++ ',' :: (' ' :: [',', ' '].intercalate (next :: rest)) := by
            simp
          rw [hText, splitAll_append, splitAll_of_not_mem hPiece, ih (by simp) hRest]
          rfl

end Text

namespace Arguments

theorem trimmed_of_trim {cs : List Char} (h : Text.trim cs = cs) : trimmed cs = String.ofList cs := by
  rw [trimmed, h]

/-- The name of a page field and its expression are told apart at the first semicolon. -/
theorem splitSource_append {name : List Char} (hName : ';' ∉ name) (hNameTrim : Text.trim name = name)
    (expression : List Char) :
    splitSource (name ++ ';' :: expression) = (String.ofList name, trimmed expression) := by
  rw [splitSource, Text.splitFirst?_append hName]
  simp only [trimmed_of_trim hNameTrim]

/-- The three arguments of a table field are told apart at the first two semicolons. -/
theorem splitField_append {id name : List Char} (hId : ';' ∉ id) (hIdTrim : Text.trim id = id)
    (hName : ';' ∉ name) (hNameQuote : '"' ∉ name) (hNameTrim : Text.trim name = name)
    (dataType : List Char) :
    splitField (id ++ ';' :: (' ' :: name ++ ';' :: dataType)) =
      ⟨String.ofList id, String.ofList name, dataType? dataType⟩ := by
  have hBlankName : ';' ∉ ' ' :: name := by simp [hName]
  rw [splitField, Text.splitFirst?_append hId]
  simp only [Text.splitFirst?_append hBlankName, trimmed_of_trim hIdTrim, unquoted,
    Text.stripQuotes_blank_cons hNameQuote hNameTrim]

/-- What trimming takes off does not matter to a data type. -/
theorem dataType?_congr {first second : List Char} (h : Text.trim first = Text.trim second) :
    dataType? first = dataType? second := by
  rw [dataType?, dataType?, trimmed, trimmed, h]

theorem dataType?_of_trim {dataType : List Char} (hFilled : dataType ≠ [])
    (hTrim : Text.trim dataType = dataType) : dataType? dataType = some (String.ofList dataType) := by
  rw [dataType?, trimmed, hTrim, if_neg (by simp [hFilled])]

/-- The field names of a key are told apart at the commas. -/
theorem splitKey_append {name : List Char} {fieldNames : List (List Char)} (hName : ';' ∉ name)
    (hNameTrim : Text.trim name = name) (hFields : fieldNames ≠ [])
    (hPlain : ∀ field ∈ fieldNames, field ≠ [] ∧ ',' ∉ field ∧ '"' ∉ field ∧ Text.trim field = field) :
    splitKey (name ++ ';' :: (' ' :: [',', ' '].intercalate fieldNames)) =
      (String.ofList name, fieldNames.map String.ofList) := by
  have hUnquoted : fieldNames.map (unquoted ∘ fun field => ' ' :: field) =
      fieldNames.map String.ofList := by
    apply List.map_congr_left
    intro field hField
    obtain ⟨-, -, hQuote, hTrim⟩ := hPlain field hField
    rw [Function.comp_apply, unquoted, Text.stripQuotes_blank_cons hQuote hTrim]
  have hFilled : ∀ field ∈ fieldNames.map String.ofList, (field != "") = true := by
    intro field hField
    obtain ⟨chars, hChars, rfl⟩ := List.mem_map.mp hField
    simpa using (hPlain chars hChars).1
  rw [splitKey, Text.splitFirst?_append hName]
  simp only [trimmed_of_trim hNameTrim,
    Text.splitAll_intercalate hFields fun field hField => (hPlain field hField).2.1,
    List.map_map, hUnquoted, List.filter_eq_self.mpr hFilled]

/-- A key without fields has no field names. -/
theorem splitKey_of_no_fields {name : List Char} (hName : ';' ∉ name)
    (hNameTrim : Text.trim name = name) : splitKey (name ++ [';']) = (String.ofList name, []) := by
  rw [splitKey, Text.splitFirst?_append hName]
  simp only [trimmed_of_trim hNameTrim]
  rfl

end Arguments
end ObjectOutline
