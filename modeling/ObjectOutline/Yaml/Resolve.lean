import ObjectOutline.Decimal.Shortest

/-! What a plain scalar reads back as. A text that would read back as null, a boolean or a number
has to be quoted to stay a text. -/
namespace ObjectOutline.Yaml

/-- The text reads as null. -/
def isNull (text : String) : Bool :=
  ["null", "Null", "NULL", "~"].contains text

/-- The text reads as a boolean. -/
def isBoolean (text : String) : Bool :=
  ["true", "True", "TRUE", "false", "False", "FALSE"].contains text

/-- Drops one sign, if there is one. -/
def dropSign : List Char → List Char
  | '+' :: rest => rest
  | '-' :: rest => rest
  | cs => cs

/-- Two or more digits, the first of them a zero, after an optional sign. Such a text is no
number. -/
def isPaddedDigits (cs : List Char) : Bool :=
  match dropSign cs with
  | '0' :: d :: rest => (d :: rest).all Char.isDigit
  | _ => false

/-- The value of a digit in bases up to sixteen. -/
def digitValue? (base : Nat) (c : Char) : Option Nat :=
  let value? :=
    if c.isDigit then some (c.toNat - '0'.toNat)
    else if 'a' ≤ c.toLower && c.toLower ≤ 'f' then some (c.toLower.toNat - 'a'.toNat + 10)
    else none
  value?.filter (· < base)

/-- The value of a non-empty run of digits. -/
def valueInBase? (base : Nat) (cs : List Char) : Option Nat :=
  if cs.isEmpty then none
  else cs.foldl (fun total? c => do
    let total ← total?
    let digit ← digitValue? base c
    return total * base + digit) (some 0)

/-- The value of an integer without its sign: in base ten, or after a mark in another base. -/
def magnitude? (cs : List Char) : Option Nat :=
  match cs with
  | '0' :: 'x' :: digits => valueInBase? 16 digits
  | '0' :: 'o' :: digits => valueInBase? 8 digits
  | '0' :: 'b' :: digits => valueInBase? 2 digits
  | digits => valueInBase? 10 digits

/-- The text reads as an integer of at most 128 bits. -/
def isInteger (cs : List Char) : Bool :=
  if isPaddedDigits cs then false
  else match cs with
    | '-' :: rest => (magnitude? rest).any (· ≤ Nat.pow 2 127)
    | '+' :: rest => (magnitude? rest).any (· < Nat.pow 2 128)
    | rest => (magnitude? rest).any (· < Nat.pow 2 128)

/-- The exponent that a decimal fraction ends in; zero when nothing follows the fraction. -/
def exponent? : List Char → Option Int
  | [] => some 0
  | e :: rest =>
    let digits := dropSign rest
    if (e == 'e' || e == 'E') && !digits.isEmpty && digits.all Char.isDigit then
      let value : Int := digits.foldl (fun total d => total * 10 + (d.toNat - '0'.toNat)) 0
      some (if rest.head? = some '-' then -value else value)
    else none

/-- The digits and the exponent of a decimal fraction: digits with at most one point, and at least
one digit, then an optional exponent. -/
def decimal? (cs : List Char) : Option (Nat × Int) :=
  let whole := cs.takeWhile Char.isDigit
  let rest := cs.dropWhile Char.isDigit
  let (fraction, rest) :=
    match rest with
    | '.' :: rest => (rest.takeWhile Char.isDigit, rest.dropWhile Char.isDigit)
    | rest => ([], rest)
  match valueInBase? 10 (whole ++ fraction), exponent? rest with
  | some value, some exponent => some (value, exponent - fraction.length)
  | _, _ => none

/-- The text reads as an infinity or as the value that is no number. -/
def isSpecialFloat (cs : List Char) : Bool :=
  let infinities := [".inf", ".Inf", ".INF"]
  [".nan", ".NaN", ".NAN"].contains (String.ofList cs) ||
    infinities.contains (String.ofList (dropSign cs))

/-- The text reads as a floating point number. One that is too large does not. -/
def isFloat (cs : List Char) : Bool :=
  isSpecialFloat cs ||
    match decimal? (dropSign cs) with
    | some (digits, exponent) => !isPaddedDigits cs && !Decimal.overflows digits exponent
    | none => false

/-- The plain text would not read back as a text, or looks too much like a number. -/
def needsQuotes (text : String) : Bool :=
  let cs := text.toList
  cs.isEmpty || isNull text || isBoolean text || isInteger cs || isFloat cs || isPaddedDigits cs

end ObjectOutline.Yaml
