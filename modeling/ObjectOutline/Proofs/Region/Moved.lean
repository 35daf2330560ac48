import ObjectOutline.Proofs.Region.Placed

/-! Moving a text. What is matched in a text does not depend on where in the source the text stands:
a text that starts further on has the same regions and the same findings, at offsets that are further
on by as much. -/
namespace ObjectOutline

/-- The same finding, `distance` bytes further on. -/
def Finding.moved (distance : Nat) (finding : Finding) : Finding :=
  ⟨finding.offset + distance, finding.issue⟩

namespace Region

mutual

/-- The same region and all that is in it, `distance` bytes further on. -/
def moved (distance : Nat) : Region → Region
  | ⟨keyword, id, name, objectType, target, source, offset, properties, children⟩ =>
      ⟨keyword, id, name, objectType, target, source, offset + distance, properties,
        movedAll distance children⟩

/-- The same regions, `distance` bytes further on. -/
def movedAll (distance : Nat) : List Region → List Region
  | [] => []
  | region :: rest => moved distance region :: movedAll distance rest

end

theorem moved_eq (distance : Nat) (region : Region) :
    moved distance region =
      { region with
        offset := region.offset + distance
        children := movedAll distance region.children } := by
  cases region
  rw [moved]

/-- Moving is mapping every offset to the one that is further on. -/
theorem movedAll_eq_placedAll (distance : Nat) (regions : List Region) :
    movedAll distance regions = placedAll (· + distance) regions := by
  induction regions using inductionAll with
  | nil => rw [movedAll, placedAll]
  | cons region rest ihInner ihRest =>
      rw [movedAll, placedAll, moved_eq, placed_eq, ihInner, ihRest]

end Region

namespace Forest

/-- The same forest, `distance` bytes further on. -/
def moved (distance : Nat) (forest : Forest) : Forest :=
  ⟨Region.movedAll distance forest.regions, forest.findings.map (Finding.moved distance)⟩

@[simp] theorem regions_moved (distance : Nat) (forest : Forest) :
    (forest.moved distance).regions = Region.movedAll distance forest.regions := rfl

@[simp] theorem findings_moved (distance : Nat) (forest : Forest) :
    (forest.moved distance).findings = forest.findings.map (Finding.moved distance) := rfl

theorem moved_eq_placed (distance : Nat) (forest : Forest) :
    forest.moved distance = forest.placed (· + distance) :=
  ext (Region.movedAll_eq_placedAll distance forest.regions) rfl

end Forest

namespace Region

theorem ofBlock_add (limit depth base distance : Nat) (block : Block) (inner : Forest) :
    ofBlock limit depth (base + distance) block (inner.placed (· + distance)) =
      (ofBlock limit depth base block inner).placed (· + distance) := by
  have hOffset : base + distance + block.openOffset = base + block.openOffset + distance :=
    Nat.add_right_comm ..
  apply ofBlock_placed inner rfl rfl hOffset
  rw [placed_eq, ofBody, ofBody, hOffset]
  rfl

/-- A text further on has the same forest further on. -/
theorem matchFrom_add (limit depth base distance : Nat) (text : List Char) :
    matchFrom limit depth (base + distance) text =
      (matchFrom limit depth base text).moved distance := by
  rw [Forest.moved_eq_placed]
  induction text using Block.induction generalizing depth base with
  | none text hNone => simp [matchFrom_of_none _ _ _ hNone]
  | closed text block post hFirst hPost ihBody ihPost =>
      have hBody : base + distance + block.bodyOffset = base + block.bodyOffset + distance :=
        Nat.add_right_comm ..
      have hPlace : base + distance + block.closeOffset + 1 =
          base + block.closeOffset + 1 + distance := by omega
      rw [matchFrom_of_closed _ _ _ hFirst hPost, matchFrom_of_closed _ _ _ hFirst hPost,
        matchBody_placed (hBody ▸ ihBody _ _), ofBlock_add, Forest.placed_append, hPlace, ihPost]
  | unclosed text block hFirst hPost ihBody =>
      have hBody : base + distance + block.bodyOffset = base + block.bodyOffset + distance :=
        Nat.add_right_comm ..
      rw [matchFrom_of_unclosed _ _ _ hFirst hPost, matchFrom_of_unclosed _ _ _ hFirst hPost,
        matchBody_placed (hBody ▸ ihBody _ _), ofBlock_add]

end Region
end ObjectOutline
