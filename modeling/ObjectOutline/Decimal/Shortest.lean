/-! The shortest decimal digits of a binary floating point number: the fewest digits that read back
as the same number, and of those the nearest. Digits are found in exact arithmetic on natural
numbers; how they are laid out, with a point or with an exponent, is a `Layout` of its own. -/
namespace ObjectOutline.Decimal

/-- A finite number other than zero, as `mantissa · 2 ^ exponent`. The gap below a power of two is
half the gap above it; `narrowBelow` says that the number is one. -/
structure Binary where
  mantissa : Nat
  exponent : Int
  narrowBelow : Bool

/-- The value scaled to a fraction of natural numbers: numerator and denominator. -/
def Binary.fraction (value : Binary) : Nat × Nat :=
  match value.exponent with
  | .ofNat n => (value.mantissa * Nat.pow 2 n, 1)
  | .negSucc n => (value.mantissa, Nat.pow 2 (n + 1))

/-- The digits of a decimal fraction and the power of ten of the first of them. -/
structure Digits where
  digits : List Char
  exponent : Int

/-- The power of ten of the first digit of the fraction `num / den`, both positive. -/
def leadingExponent (num den : Nat) : Int :=
  if den ≤ num then ((Nat.toDigits 10 (num / den)).length : Int) - 1
  else -((Nat.toDigits 10 ((den + num - 1) / num - 1)).length : Int)

/-- Drops zeros at the end, keeping the first digit. -/
def dropTrailingZeros (digits : List Char) : List Char :=
  match (digits.reverse.dropWhile (· == '0')).reverse with
  | [] => digits.take 1
  | kept => kept

/-- The point of the grid of multiples of `10 ^ power` that reads back as the number and is nearest
to it, if one of the number's two neighbours on the grid does. A tie goes to the even neighbour. -/
def nearestOnGrid? (value : Binary) (power : Int) : Option Nat :=
  let (num, den) := value.fraction
  -- Everything is scaled by four grid units, so that halves and quarters of a gap stay whole.
  let (num, den) :=
    match power with
    | .ofNat n => (num, den * Nat.pow 10 n)
    | .negSucc n => (num * Nat.pow 10 (n + 1), den)
  let quarterGap := num / value.mantissa
  let low := 4 * num - (if value.narrowBelow then quarterGap else 2 * quarterGap)
  let high := 4 * num + 2 * quarterGap
  let readsBack := fun point =>
    let scaled := 4 * point * den
    if value.mantissa % 2 = 0 then low ≤ scaled && scaled ≤ high else low < scaled && scaled < high
  let below := num / den
  let above := below + 1
  match readsBack below && 0 < below, readsBack above with
  | true, true =>
    let remainder := num % den
    if 2 * remainder < den || (2 * remainder == den && below % 2 == 0) then some below
    else some above
  | true, false => some below
  | false, true => some above
  | false, false => none

/-- Tries grids of one more digit each, `fuel` of them, from the grid of `10 ^ power` on. -/
def searchDigits (value : Binary) (power : Int) : Nat → Digits
  | 0 => ⟨['0'], 0⟩
  | fuel + 1 =>
    match nearestOnGrid? value power with
    | some point =>
      let digits := Nat.toDigits 10 point
      ⟨dropTrailingZeros digits, power + digits.length - 1⟩
    | none => searchDigits value (power - 1) fuel

/-- The shortest digits of a number. Seventeen always suffice. -/
def shortest (value : Binary) : Digits :=
  let (num, den) := value.fraction
  searchDigits value (leadingExponent num den) 18

/-- How a finite number is written. Outside the positional range an exponent is written, with its
sign in any case. -/
structure Layout where
  positional : Int → Bool
  keepPoint : Bool

/-- A fraction in which an exponent replaces leading and trailing zeros outside `10 ^ -5 … 10 ^ 15`,
and which always shows that it is one. -/
def Layout.scientific : Layout := ⟨fun exponent => -5 ≤ exponent && exponent ≤ 15, true⟩

/-- A fraction written out, whatever its size, and like an integer when it is one. -/
def Layout.plain : Layout := ⟨fun _ => true, false⟩

/-- Lays out digits under a power of ten. -/
def Layout.write (layout : Layout) (value : Digits) : List Char :=
  let point := value.exponent + 1
  if layout.positional value.exponent then
    if point ≤ 0 then
      '0' :: '.' :: (List.replicate (-point).toNat '0' ++ value.digits)
    else
      let whole := point.toNat
      if value.digits.length ≤ whole then
        value.digits ++ List.replicate (whole - value.digits.length) '0' ++
          (if layout.keepPoint then ['.', '0'] else [])
      else value.digits.take whole ++ '.' :: value.digits.drop whole
  else
    let fraction :=
      match value.digits.drop 1 with
      | [] => []
      | rest => '.' :: rest
    let sign := if value.exponent < 0 then '-' else '+'
    value.digits.take 1 ++ fraction ++ 'e' :: sign :: Nat.toDigits 10 value.exponent.natAbs

/-- The finite number other than zero that 64 bits stand for, its sign apart. -/
def binaryOfBits? (bits : UInt64) : Option Binary :=
  let fraction : Nat := bits.toNat % Nat.pow 2 52
  let exponent : Nat := bits.toNat / Nat.pow 2 52 % Nat.pow 2 11
  if exponent = 0 then
    if fraction = 0 then none else some ⟨fraction, -1074, false⟩
  else some ⟨fraction + Nat.pow 2 52, (exponent : Int) - 1075, fraction = 0 && 1 < exponent⟩

/-- The text of a number. -/
def render (layout : Layout) (value : Float) : String :=
  if value.isNaN then "NaN"
  else
    let sign := if value.toBits.toNat / Nat.pow 2 63 = 1 then ['-'] else []
    let body :=
      if value.isInf then ['i', 'n', 'f']
      else match binaryOfBits? value.toBits with
        | some binary => layout.write (shortest binary)
        | none => layout.write ⟨['0'], 0⟩
    String.ofList (sign ++ body)

/-- The number `digits · 10 ^ exponent` is too large for a floating point number: it lies at or
above the middle between the largest one and the next power of two. -/
def overflows (digits : Nat) (exponent : Int) : Bool :=
  let size : Int := (Nat.toDigits 10 digits).length + exponent
  if digits = 0 ∨ size < 309 then false
  else if 310 ≤ size then true
  else match exponent with
    | .ofNat n => Nat.pow 2 1024 - Nat.pow 2 970 ≤ digits * Nat.pow 10 n
    | .negSucc n => (Nat.pow 2 1024 - Nat.pow 2 970) * Nat.pow 10 (n + 1) ≤ digits

end ObjectOutline.Decimal
