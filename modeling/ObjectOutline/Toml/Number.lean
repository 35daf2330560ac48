import ObjectOutline.Decimal.Shortest
import ObjectOutline.Toml.Value

/-! Numbers and booleans in TOML. They are read from a whole word. Underscores may stand between two
digits; integers have 64 bits. -/
namespace ObjectOutline.Toml

/-- A character of a word that is no string. -/
def isWordChar (c : Char) : Bool :=
  c.isAlphanum || c == '_' || c == '+' || c == '-' || c == '.'

/-- The digits of a run in which single underscores may stand between digits. -/
def digitRun? (isDigit : Char → Bool) : List Char → Option (List Char)
  | [] => none
  | [c] => if isDigit c then some [c] else none
  | c :: '_' :: rest => if isDigit c then (digitRun? isDigit rest).map (c :: ·) else none
  | c :: rest => if isDigit c then (digitRun? isDigit rest).map (c :: ·) else none

/-- The value of a digit, in bases up to sixteen. -/
def digitValue (c : Char) : Nat :=
  if c.isDigit then c.toNat - '0'.toNat else c.toLower.toNat - 'a'.toNat + 10

/-- The value of a run of digits. -/
def runValue (base : Nat) (digits : List Char) : Nat :=
  digits.foldl (fun value c => value * base + digitValue c) 0

/-- The value of a run of digits in a base. -/
def integerInBase? (base : Nat) (cs : List Char) : Option Int :=
  let isDigit := fun (c : Char) =>
    (c.isDigit || ('a' ≤ c.toLower && c.toLower ≤ 'f')) && digitValue c < base
  match digitRun? isDigit cs with
  | some digits =>
    let value := runValue base digits
    if value < Nat.pow 2 63 then some value else none
  | none => none

/-- The digits of a decimal integer without sign. Only zero itself starts with a zero. -/
def wholeDigits? (cs : List Char) : Option (List Char) :=
  match digitRun? Char.isDigit cs with
  | some ('0' :: _ :: _) => none
  | digits => digits

/-- A sign, if there is one, and what follows it: whether the sign is a minus, and the rest. -/
def splitSign : List Char → Bool × List Char
  | '-' :: rest => (true, rest)
  | '+' :: rest => (false, rest)
  | cs => (false, cs)

/-- An integer. Those in other bases have no sign. -/
def integer? (cs : List Char) : Option Int :=
  match cs with
  | '0' :: 'x' :: digits => integerInBase? 16 digits
  | '0' :: 'o' :: digits => integerInBase? 8 digits
  | '0' :: 'b' :: digits => integerInBase? 2 digits
  | _ =>
    let (isNegative, body) := splitSign cs
    match wholeDigits? body with
    | none => none
    | some digits =>
      let size : Int := runValue 10 digits
      let value := if isNegative then -size else size
      if -(Nat.pow 2 63 : Int) ≤ value ∧ value < Nat.pow 2 63 then some value else none

/-- The exponent of a floating point number, read behind its letter. -/
def exponent? (cs : List Char) : Option Int :=
  let (isNegative, body) := splitSign cs
  (digitRun? Char.isDigit body).map fun digits =>
    if isNegative then -(runValue 10 digits : Int) else runValue 10 digits

/-- The number `digits · 10 ^ exponent`. -/
def floatOfDecimal (isNegative : Bool) (digits : List Char) (exponent : Int) : Float :=
  let value := runValue 10 digits
  -- Far below the smallest number every exponent gives zero.
  let size :=
    if value = 0 ∨ exponent + digits.length < -400 then 0
    else if Decimal.overflows value exponent then 1 / 0
    else Float.ofScientific value (exponent < 0) exponent.natAbs
  if isNegative then -size else size

/-- A floating point number: a whole part, then a fraction or an exponent or both, or a special
value. A positive number that is too large is refused. -/
def float? (cs : List Char) : Option Float :=
  let (isNegative, body) := splitSign cs
  if body = ['i', 'n', 'f'] then some (if isNegative then -1 / 0 else 1 / 0)
  else if body = ['n', 'a', 'n'] then some (0 / 0)
  else
    let isMark := fun (c : Char) => c == '.' || c == 'e' || c == 'E'
    let whole := body.takeWhile (!isMark ·)
    let number? : Option (List Char × Int) :=
      match wholeDigits? whole, body.dropWhile (!isMark ·) with
      | some whole, '.' :: rest =>
        let fraction := rest.takeWhile (!isMark ·)
        match digitRun? Char.isDigit fraction, rest.dropWhile (!isMark ·) with
        | some fraction, [] => some (whole ++ fraction, -(fraction.length : Int))
        | some fraction, mark :: power =>
          if mark == '.' then none
          else (exponent? power).map fun power => (whole ++ fraction, power - fraction.length)
        | none, _ => none
      | some whole, _ :: power => (exponent? power).map fun power => (whole, power)
      | _, _ => none
    match number? with
    | none => none
    | some (digits, exponent) =>
      if !isNegative && Decimal.overflows (runValue 10 digits) exponent then none
      else some (floatOfDecimal isNegative digits exponent)

/-- The value that a word stands for. -/
def wordValue? (word : List Char) : Option Value :=
  if word = ['t', 'r', 'u', 'e'] then some (.boolean true)
  else if word = ['f', 'a', 'l', 's', 'e'] then some (.boolean false)
  else match integer? word with
    | some value => some (.integer value)
    | none => (float? word).map .float

end ObjectOutline.Toml
