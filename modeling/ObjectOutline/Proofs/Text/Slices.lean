import ObjectOutline.Text.Bytes

/-! Slices of a text, taken between byte offsets. Both offsets have to be boundaries of characters
inside the text, and the first may not lie behind the second: there is no slice otherwise, rather than
a shorter one. -/
namespace ObjectOutline.Text

/-- The characters that take up the first `length` bytes of a text, and the text behind them. -/
def cutAt? : Nat → List Char → Option (List Char × List Char)
  | 0, text => some ([], text)
  | _ + 1, [] => none
  | length + 1, c :: rest =>
      if c.utf8Size ≤ length + 1 then
        (cutAt? (length + 1 - c.utf8Size) rest).map fun (taken, left) => (c :: taken, left)
      else none

/-- The text from one byte offset up to another. -/
def slice? (start stop : Nat) (text : List Char) : Option (List Char) :=
  (cutAt? stop text).bind fun (front, _) => (cutAt? start front).map Prod.snd

theorem cutAt?_append (left right : List Char) :
    cutAt? (byteLength left) (left ++ right) = some (left, right) := by
  induction left with
  | nil => simp [cutAt?]
  | cons c rest ih =>
      obtain ⟨size, hSize⟩ := Nat.exists_eq_add_one.mpr c.utf8Size_pos
      have hLength : byteLength (c :: rest) = size + byteLength rest + 1 := by
        rw [byteLength_cons, hSize]
        omega
      have hRest : size + byteLength rest + 1 - c.utf8Size = byteLength rest := by omega
      rw [hLength, List.cons_append, cutAt?, if_pos (by omega), hRest, ih]
      rfl

theorem eq_of_cutAt? {length : Nat} {text left right : List Char}
    (h : cutAt? length text = some (left, right)) :
    text = left ++ right ∧ byteLength left = length := by
  fun_induction cutAt? length text generalizing left with
  | case1 text =>
      obtain ⟨rfl, rfl⟩ := Prod.mk.inj (Option.some.inj h)
      exact ⟨rfl, rfl⟩
  | case2 => cases h
  | case3 length c rest hFits ih =>
      obtain ⟨⟨taken, behind⟩, hRest, hParts⟩ := Option.map_eq_some_iff.mp h
      obtain ⟨rfl, rfl⟩ := Prod.mk.inj hParts
      obtain ⟨rfl, hLength⟩ := ih hRest
      refine ⟨rfl, ?_⟩
      rw [byteLength_cons, hLength]
      omega
  | case4 => cases h

/-- A slice is what stands between two parts of the text, and its offsets are the lengths of what is in
front of its ends. -/
theorem slice?_eq_some_iff (start stop : Nat) (text part : List Char) :
    slice? start stop text = some part ↔
      ∃ before behind, text = before ++ part ++ behind ∧ byteLength before = start ∧
        byteLength (before ++ part) = stop := by
  constructor
  · intro h
    obtain ⟨⟨front, behind⟩, hStop, hStart⟩ := Option.bind_eq_some_iff.mp h
    obtain ⟨⟨before, taken⟩, hCut, hPart⟩ := Option.map_eq_some_iff.mp hStart
    obtain rfl : taken = part := hPart
    obtain ⟨rfl, hFront⟩ := eq_of_cutAt? hStop
    obtain ⟨hParts, hBefore⟩ := eq_of_cutAt? hCut
    obtain rfl : front = before ++ taken := hParts
    exact ⟨before, behind, rfl, hBefore, hFront⟩
  · rintro ⟨before, behind, rfl, rfl, rfl⟩
    rw [slice?, cutAt?_append]
    simp only [Option.bind_some, cutAt?_append, Option.map_some]

end ObjectOutline.Text
