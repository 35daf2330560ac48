import ObjectOutline.Proofs.Brace.BlockNesting

/-! Parents: opening braces with another one inside. What is inside a brace can be told from the places
of the braces alone, because those of a block lie between its own two and those of different blocks
lie apart. So the parents at one level of a text are those at the level above of its first body, and
then those at the same level of what follows. -/
namespace ObjectOutline

namespace Opening

/-- The brace and all braces around it lie between two places. -/
def Within (low high : Nat) (x : Opening) : Prop :=
  ∀ o ∈ x.offset :: x.around, low ≤ o ∧ o < high

variable {x : Opening} {all inner later : List Opening} {low high first middle last level : Nat}

section

-- The places of the block, of its body and of what follows are apart.
variable (hInner : ∀ x ∈ inner, x.Within (first + 1) middle)
  (hLater : ∀ x ∈ later, x.Within middle last) (hFirst : first < middle)

include hInner hLater hFirst

end

end Opening

namespace Brace

end Brace

namespace Block

theorem openings_eq_nil_iff (base : Nat) (text : List Char) :
    Brace.openings [] (Brace.ofText .code base text) = [] ↔ find? text = none := by
  constructor
  · intro h
    cases hFind : find? text with
    | none => rfl
    | some block =>
        have hFirst := (find?_eq_some_iff text block).mp hFind
        have hOwn := hFirst.exists_opening_at (Brace.keeps_nil (Brace.ofText .code base text))
        simp [h] at hOwn
  · intro h
    exact Brace.openings_eq_nil
      (Brace.isOpening_of_mem_ofText base ((find?_eq_none_iff text).mp h))

namespace IsFirst

variable {text post : List Char} {block : Block}

end IsFirst
end Block
end ObjectOutline
