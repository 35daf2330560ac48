import ObjectOutline.Proofs.Brace.Parents
import ObjectOutline.Proofs.Region.Findings

/-! The limit on nesting, and what it costs. Regions are dropped at the limit, where the block that
would hold them is reported, and behind the point where the source was cut off, which is reported as
well. A source for which neither is reported has a region for each of its opening braces. -/
namespace ObjectOutline.Region

variable {text : List Char} {block : Block}

theorem countAll_append (first second : List Region) :
    countAll (first ++ second) = countAll first + countAll second := by
  induction first with
  | nil => rw [List.nil_append, countAll, Nat.zero_add]
  | cons region rest ih => rw [List.cons_append, countAll, ih, countAll, Nat.add_assoc]

end ObjectOutline.Region
