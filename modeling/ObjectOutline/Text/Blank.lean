/-! Blank characters and trimming. Blank means the Unicode property `White_Space`, which holds
no-break spaces, the line and paragraph separators and U+0085, and does not hold zero width spaces
or the byte order mark. Text is worked on as a list of characters throughout the library. -/
namespace ObjectOutline.Text

/-- The twenty-five characters of the Unicode property `White_Space`. -/
def isBlank (c : Char) : Bool :=
  let n := c.toNat
  (0x9 ≤ n && n ≤ 0xD) || n == 0x20 || n == 0x85 || n == 0xA0 || n == 0x1680 ||
    (0x2000 ≤ n && n ≤ 0x200A) || n == 0x2028 || n == 0x2029 || n == 0x202F || n == 0x205F ||
    n == 0x3000

/-- Drops the blanks at the start. -/
def trimStart (cs : List Char) : List Char :=
  cs.dropWhile isBlank

/-- Drops the blanks at the end. -/
def trimEnd (cs : List Char) : List Char :=
  (cs.reverse.dropWhile isBlank).reverse

/-- Drops the blanks at both ends. -/
def trim (cs : List Char) : List Char :=
  trimEnd (trimStart cs)

/-- Removes every double quote, wherever it stands, and trims what is left. -/
def stripQuotes (cs : List Char) : List Char :=
  trim (cs.filter (· != '"'))

/-- Removes every apostrophe, wherever it stands, and trims what is left. -/
def stripApostrophes (cs : List Char) : List Char :=
  trim (cs.filter (· != '\''))

theorem trimStart_cons_of_isBlank {c : Char} {cs : List Char} (h : isBlank c = true) :
    trimStart (c :: cs) = trimStart cs := by
  simp [trimStart, h]

theorem trimStart_cons_of_not_isBlank {c : Char} {cs : List Char} (h : isBlank c = false) :
    trimStart (c :: cs) = c :: cs := by
  simp [trimStart, h]

end ObjectOutline.Text
