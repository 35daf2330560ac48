import ObjectOutline.Toml.Text

/-! Dates and times in TOML: a date, a time of day, or both, and behind both an offset from universal
time. They are kept as they were written, except that a fraction of a second has nine digits at most
and every form of one moment is rendered alike. -/
namespace ObjectOutline.Toml

/-- A day of the calendar. -/
structure Date where
  year : Nat
  month : Nat
  day : Nat
  deriving DecidableEq, Repr

/-- A time of day. The second may be 60, as leap seconds are. -/
structure Time where
  hour : Nat
  minute : Nat
  second : Nat
  nanosecond : Nat
  deriving DecidableEq, Repr

/-- The distance of a clock from universal time. -/
inductive Offset where
  | universal
  | ahead (minutes : Nat)
  | behind (minutes : Nat)
  deriving DecidableEq, Repr

/-- A date, a time, or both. Only both together have an offset. -/
inductive Moment where
  | date (date : Date)
  | time (time : Time)
  | both (date : Date) (time : Time) (offset : Option Offset)
  deriving DecidableEq, Repr

/-- The number of days of a month. -/
def daysOfMonth (year month : Nat) : Nat :=
  if month = 2 then
    if year % 4 = 0 ∧ (year % 100 ≠ 0 ∨ year % 400 = 0) then 29 else 28
  else if [4, 6, 9, 11].contains month then 30
  else 31

/-- A number of `width` decimal digits. -/
def readDigits (width : Nat) (cs : List Char) : Reading Nat :=
  let digits := cs.take width
  if digits.length = width ∧ digits.all Char.isDigit then
    some (digits.foldl (fun value c => value * 10 + (c.toNat - '0'.toNat)) 0, cs.drop width)
  else none

/-- A number of two digits between two bounds. -/
def readPair (low high : Nat) (cs : List Char) : Reading Nat :=
  match readDigits 2 cs with
  | some (value, rest) => if low ≤ value ∧ value ≤ high then some (value, rest) else none
  | none => none

/-- A number of two digits behind a mark. -/
def readMarked (mark : Char) (low high : Nat) : List Char → Reading Nat
  | c :: rest => if c = mark then readPair low high rest else none
  | [] => none

/-- A date. -/
def readDate (cs : List Char) : Option (Date × List Char) := do
  let (year, rest) ← readDigits 4 cs
  let (month, rest) ← readMarked '-' 1 12 rest
  let (day, rest) ← readMarked '-' 1 (daysOfMonth year month) rest
  some (⟨year, month, day⟩, rest)

/-- The billionths that the digits of a fraction stand for. Digits after the ninth are cut off. -/
def billionths (digits : List Char) : Nat :=
  (digits ++ List.replicate 9 '0').take 9 |>.foldl
    (fun value c => value * 10 + (c.toNat - '0'.toNat)) 0

/-- The fraction of a second, if a point with digits stands here. -/
def readFraction : List Char → Nat × List Char
  | '.' :: rest =>
    match rest.takeWhile Char.isDigit with
    | [] => (0, '.' :: rest)
    | digits => (billionths digits, rest.dropWhile Char.isDigit)
  | cs => (0, cs)

/-- A time of day. -/
def readTime (cs : List Char) : Option (Time × List Char) := do
  let (hour, rest) ← readPair 0 23 cs
  let (minute, rest) ← readMarked ':' 0 59 rest
  let (second, rest) ← readMarked ':' 0 60 rest
  let (nanosecond, rest) := readFraction rest
  some (⟨hour, minute, second, nanosecond⟩, rest)

/-- The hours and minutes of an offset, as minutes. -/
def readDistance (cs : List Char) : Option (Nat × List Char) := do
  let (hour, rest) ← readPair 0 23 cs
  let (minute, rest) ← readMarked ':' 0 59 rest
  some (hour * 60 + minute, rest)

/-- An offset, if one stands here; nothing at a sign without a distance. -/
def readOffset : List Char → Reading (Option Offset)
  | 'Z' :: rest => some (some .universal, rest)
  | 'z' :: rest => some (some .universal, rest)
  | '+' :: rest => (readDistance rest).map fun (minutes, rest) => (some (.ahead minutes), rest)
  | '-' :: rest => (readDistance rest).map fun (minutes, rest) => (some (.behind minutes), rest)
  | cs => some (none, cs)

/-- What follows a date: a time behind a letter or a space, or nothing of it. -/
def readAfterDate (date : Date) (cs : List Char) : Reading Moment :=
  match cs with
  | [] => some (.date date, [])
  | c :: rest =>
    match readTime rest with
    | some (time, rest) =>
      if c = 'T' ∨ c = 't' ∨ c = ' ' then
        (readOffset rest).map fun (offset, rest) => (.both date time offset, rest)
      else some (.date date, cs)
    | none => some (.date date, cs)

/-- A date, a time, or both. -/
def readMoment (cs : List Char) : Reading Moment :=
  match readDate cs with
  | some (date, rest) => readAfterDate date rest
  | none => (readTime cs).map fun (time, rest) => (.time time, rest)

/-- A number with zeros in front of it, up to a width. -/
def padded (width value : Nat) : List Char :=
  let digits := Nat.toDigits 10 value
  List.replicate (width - digits.length) '0' ++ digits

/-- A date as it is written. -/
def Date.render (date : Date) : List Char :=
  padded 4 date.year ++ '-' :: padded 2 date.month ++ '-' :: padded 2 date.day

/-- A time as it is written, without zeros at the end of the fraction. -/
def Time.render (time : Time) : List Char :=
  let fraction :=
    if time.nanosecond = 0 then []
    else '.' :: ((padded 9 time.nanosecond).reverse.dropWhile (· == '0')).reverse
  padded 2 time.hour ++ ':' :: padded 2 time.minute ++ ':' :: padded 2 time.second ++ fraction

/-- A distance as hours and minutes. -/
def renderDistance (minutes : Nat) : List Char :=
  padded 2 (minutes / 60) ++ ':' :: padded 2 (minutes % 60)

/-- An offset as it is written. No distance behind is no distance ahead. -/
def Offset.render : Offset → List Char
  | .universal => ['Z']
  | .ahead minutes => '+' :: renderDistance minutes
  | .behind minutes => (if minutes = 0 then '+' else '-') :: renderDistance minutes

/-- A date, a time, or both, as they are written. -/
def Moment.render : Moment → String
  | .date day => String.ofList day.render
  | .time clock => String.ofList clock.render
  | .both day clock offset =>
    String.ofList (day.render ++ 'T' :: clock.render ++ (offset.map Offset.render).getD [])

end ObjectOutline.Toml
