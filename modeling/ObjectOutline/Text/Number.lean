/-! Decimal numbers in text. Object ids and field numbers are words of 32 bits; a longer number is
refused, never wrapped. -/
namespace ObjectOutline.Text

/-- The value of a run of decimal digits, read from the left. -/
def digitsValue (digits : List Char) : Nat :=
  digits.foldl (fun value d => value * 10 + (d.toNat - '0'.toNat)) 0

/-- A non-empty run of digits whose value fits 32 bits. -/
def word32? (digits : List Char) : Option UInt32 :=
  if digits.isEmpty || !digits.all Char.isDigit then none
  else if digitsValue digits < UInt32.size then some (UInt32.ofNat (digitsValue digits))
  else none

/-- Like `word32?`, and one plus sign may stand in front. -/
def signedWord32? : List Char → Option UInt32
  | '+' :: digits => word32? digits
  | digits => word32? digits

end ObjectOutline.Text
