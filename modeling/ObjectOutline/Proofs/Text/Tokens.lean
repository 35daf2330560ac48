import ObjectOutline.Proofs.Brace.Quiet
import ObjectOutline.Proofs.Text.Lines
import ObjectOutline.Text.Number

/-! What header lines and property lines are made of: identifiers, decimal numbers and quoted names.
Each of them is read off whatever follows it, as long as that does not continue it, and none of them
shows a brace of code. -/
namespace ObjectOutline.Text

theorem isIdentifierRest_of_isIdentifierStart {c : Char} (h : isIdentifierStart c = true) :
    isIdentifierRest c = true := by
  simp only [isIdentifierStart, isIdentifierRest, Char.isAlphanum, Bool.or_eq_true] at h ⊢
  exact h.imp_left Or.inl

theorem not_isBlank_of_isIdentifierRest {c : Char} (h : isIdentifierRest c = true) :
    isBlank c = false := by
  have hCode : 48 ≤ c.toNat ∧ c.toNat ≤ 122 := by
    rw [isIdentifierRest] at h
    delta Char.isAlphanum Char.isAlpha Char.isUpper Char.isLower Char.isDigit at h
    simp only [Bool.or_eq_true, Bool.and_eq_true, decide_eq_true_eq, beq_iff_eq,
      UInt32.le_iff_toNat_le, ge_iff_le] at h
    rcases h with h | rfl
    · have hToNat : c.val.toNat = c.toNat := rfl
      have hDigit : '0'.val.toNat = 48 ∧ '9'.val.toNat = 57 := ⟨rfl, rfl⟩
      have hUpper : 'A'.val.toNat = 65 ∧ 'Z'.val.toNat = 90 := ⟨rfl, rfl⟩
      have hLower : 'a'.val.toNat = 97 ∧ 'z'.val.toNat = 122 := ⟨rfl, rfl⟩
      omega
    · decide
  simp only [isBlank, Bool.or_eq_false_iff, Bool.and_eq_false_iff, decide_eq_false_iff_not,
    beq_eq_false_iff_ne]
  omega

/-- The letters are the ASCII ones and the two that fold to an ASCII one. -/
theorem isLetter_iff (c : Char) :
    isLetter c = true ↔ c.isAlpha = true ∨ c = 'ſ' ∨ c = '\u212A' := by
  rw [isLetter, foldLetter?]
  by_cases hAlpha : c.isAlpha = true
  · simp [hAlpha]
  · by_cases hLong : c = 'ſ'
    · simp [hLong]
    · by_cases hKelvin : c = '\u212A' <;> simp [hAlpha, hLong, hKelvin]

theorem not_isDigit_of_isAlpha {c : Char} (h : c.isAlpha = true) : c.isDigit = false := by
  delta Char.isAlpha Char.isUpper Char.isLower at h
  delta Char.isDigit
  simp only [Bool.or_eq_true, Bool.and_eq_true, decide_eq_true_eq, Bool.and_eq_false_iff,
    decide_eq_false_iff_not, UInt32.le_iff_toNat_le, ge_iff_le] at h ⊢
  have hDigit : '9'.val.toNat = 57 := rfl
  have hUpper : 'A'.val.toNat = 65 := rfl
  have hLower : 'a'.val.toNat = 97 := rfl
  omega

theorem not_isBlank_of_isLetter {c : Char} (h : isLetter c = true) : isBlank c = false := by
  rcases (isLetter_iff c).mp h with hAlpha | rfl | rfl
  · exact not_isBlank_of_isIdentifierRest (by simp [isIdentifierRest, Char.isAlphanum, hAlpha])
  · decide
  · decide

theorem not_isDigit_of_isLetter {c : Char} (h : isLetter c = true) : c.isDigit = false := by
  rcases (isLetter_iff c).mp h with hAlpha | rfl | rfl
  · exact not_isDigit_of_isAlpha hAlpha
  · decide
  · decide

theorem isIdentifierRest_of_mem {name : List Char} (h : isIdentifier name = true) :
    ∀ c ∈ name, isIdentifierRest c = true := by
  cases name with
  | nil => simp
  | cons c rest =>
      simp only [isIdentifier, Bool.and_eq_true, List.all_eq_true] at h
      intro d hd
      rcases List.mem_cons.mp hd with rfl | hRest
      · exact isIdentifierRest_of_isIdentifierStart h.1
      · exact h.2 d hRest

/-- An identifier is read off whatever follows it, if that does not continue it. -/
theorem splitIdentifier?_append {name rest : List Char} (hName : isIdentifier name = true)
    (hRest : ∀ c ∈ rest.head?, isIdentifierRest c = false) :
    splitIdentifier? (name ++ rest) = some (name, rest) := by
  cases name with
  | nil => simp [isIdentifier] at hName
  | cons c name =>
      simp only [isIdentifier, Bool.and_eq_true, List.all_eq_true] at hName
      rw [List.cons_append, splitIdentifier?, if_pos hName.1,
        takeWhile_append_eq_left hName.2 hRest, dropWhile_append_eq_right hName.2 hRest]

theorem isIdentifierRest_of_isDigit {c : Char} (h : c.isDigit = true) :
    isIdentifierRest c = true := by
  simp [isIdentifierRest, Char.isAlphanum, h]

theorem not_isDigit_of_isBlank {c : Char} (h : isBlank c = true) : c.isDigit = false := by
  rw [← Bool.not_eq_true]
  intro hDigit
  rw [not_isBlank_of_isIdentifierRest (isIdentifierRest_of_isDigit hDigit)] at h
  cases h

theorem isDigit_of_mem_toDigits {n : Nat} {c : Char} (h : c ∈ Nat.toDigits 10 n) :
    c.isDigit = true :=
  Nat.isDigit_of_mem_toDigits (by decide) (by decide) h

theorem not_mem_toDigits {c : Char} (h : c.isDigit = false) (n : Nat) : c ∉ Nat.toDigits 10 n := by
  intro hMem
  rw [isDigit_of_mem_toDigits hMem] at h
  cases h

theorem trim_toDigits (n : Nat) : trim (Nat.toDigits 10 n) = Nat.toDigits 10 n :=
  trim_of_not_isBlank fun _ hc =>
    not_isBlank_of_isIdentifierRest (isIdentifierRest_of_isDigit (isDigit_of_mem_toDigits hc))

theorem digitsValue_toDigits (n : Nat) : digitsValue (Nat.toDigits 10 n) = n := by
  have hValue : digitsValue (Nat.toDigits 10 n) = Nat.ofDigitChars 10 (Nat.toDigits 10 n) 0 := by
    rw [digitsValue, Nat.ofDigitChars_eq_foldl]
    simp only [Nat.mul_comm]
  rw [hValue, Nat.ofDigitChars_ten_toDigits]

/-- A word of 32 bits is read back from its decimal digits. -/
theorem word32?_toDigits (id : UInt32) : word32? (Nat.toDigits 10 id.toNat) = some id := by
  have hDigits : (Nat.toDigits 10 id.toNat).all Char.isDigit = true :=
    List.all_eq_true.mpr fun c => isDigit_of_mem_toDigits
  have hFits : id.toNat < UInt32.size := id.toNat_lt_size
  rw [word32?, digitsValue_toDigits, if_neg (by simp [hDigits, Nat.toDigits_ne_nil]), if_pos hFits,
    UInt32.ofNat_toNat]

theorem filter_bne {c : Char} {cs : List Char} (h : c ∉ cs) : cs.filter (· != c) = cs := by
  rw [List.filter_eq_self]
  intro d hd
  simp only [bne_iff_ne]
  exact fun hEq => h (hEq ▸ hd)

/-- A blank in front of a trimmed name without quotes is taken off. -/
theorem stripQuotes_blank_cons {name : List Char} (hQuote : '"' ∉ name)
    (hTrim : trim name = name) : stripQuotes (' ' :: name) = name := by
  simp [stripQuotes, filter_bne hQuote, trim_space_cons, hTrim]

end ObjectOutline.Text
