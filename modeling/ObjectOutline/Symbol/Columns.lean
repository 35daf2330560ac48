/-! The two columns of a page. Of the controls beside each other the later ones stand in the second
column: from the middle on when their number is even, after the middle when it is odd. -/
namespace ObjectOutline.Columns

/-- Half of `count`, rounded up. -/
def midpoint (count : Nat) : Nat :=
  (count + 1) / 2

/-- The control at `index`, counted from one, of `count` stands in the second column. -/
def startsSecond (index count : Nat) : Bool :=
  if count % 2 = 0 then midpoint count ≤ index else midpoint count < index

/-- The flag of every control of a row of `count`. All are set when the control around them has its
flag set. -/
def separators (count : Nat) (inherited : Bool) : List Bool :=
  (List.range count).map fun index => inherited || startsSecond (index + 1) count

end ObjectOutline.Columns
