import ObjectOutline.Proofs.Region.Occurrence

/-! Regions and findings at other places. When a text is rewritten without a change to what it says, its
regions and its findings only come to stand elsewhere; a map from offsets to offsets says where. -/
namespace ObjectOutline

/-- The same finding at the place that its offset is mapped to. -/
def Finding.placed (place : Nat → Nat) (finding : Finding) : Finding :=
  ⟨place finding.offset, finding.issue⟩

namespace Region

mutual

/-- The same region and all that is in it, at the places that the offsets are mapped to. -/
def placed (place : Nat → Nat) : Region → Region
  | ⟨keyword, id, name, objectType, target, source, offset, properties, children⟩ =>
      ⟨keyword, id, name, objectType, target, source, place offset, properties,
        placedAll place children⟩

def placedAll (place : Nat → Nat) : List Region → List Region
  | [] => []
  | region :: rest => placed place region :: placedAll place rest

end

variable (place : Nat → Nat)

theorem placed_eq (region : Region) :
    placed place region =
      { region with
        offset := place region.offset
        children := placedAll place region.children } := by
  cases region
  rw [placed]

theorem placedAll_eq_map (regions : List Region) :
    placedAll place regions = regions.map (placed place) := by
  induction regions with
  | nil => rw [placedAll, List.map_nil]
  | cons region rest ih => rw [placedAll, ih, List.map_cons]

@[simp] theorem placedAll_nil : placedAll place [] = [] := by
  rw [placedAll]

@[simp] theorem placedAll_append (first second : List Region) :
    placedAll place (first ++ second) = placedAll place first ++ placedAll place second := by
  simp only [placedAll_eq_map, List.map_append]

@[simp] theorem placedAll_eq_nil_iff (regions : List Region) :
    placedAll place regions = [] ↔ regions = [] := by
  rw [placedAll_eq_map, List.map_eq_nil_iff]

theorem length_placedAll (regions : List Region) :
    (placedAll place regions).length = regions.length := by
  rw [placedAll_eq_map, List.length_map]

theorem children_placed (region : Region) :
    (placed place region).children = placedAll place region.children := by
  rw [placed_eq]

end Region

namespace Forest

/-- The same forest at the places that the offsets are mapped to. -/
def placed (place : Nat → Nat) (forest : Forest) : Forest :=
  ⟨Region.placedAll place forest.regions, forest.findings.map (Finding.placed place)⟩

variable (place : Nat → Nat)

@[simp] theorem regions_placed (forest : Forest) :
    (forest.placed place).regions = Region.placedAll place forest.regions := rfl

@[simp] theorem findings_placed (forest : Forest) :
    (forest.placed place).findings = forest.findings.map (Finding.placed place) := rfl

theorem placed_append (first second : Forest) :
    (first ++ second).placed place = first.placed place ++ second.placed place :=
  ext (by simp) (by simp)

@[simp] theorem placed_empty : Forest.empty.placed place = Forest.empty :=
  ext (by simp) (by simp)

end Forest

namespace Region

variable {place : Nat → Nat}

/-- A block that says what another one says gives what that one gives, at its own place. -/
theorem ofBlock_placed {limit depth base base' : Nat} {block block' : Block} (inner : Forest)
    (hClosed : block'.isClosed = block.isClosed)
    (hIssues : ownIssues limit depth block' = ownIssues limit depth block)
    (hPlace : base' + block'.openOffset = place (base + block.openOffset))
    (hRegion : ofBody base' block' (inner.placed place) =
      placed place (ofBody base block inner)) :
    ofBlock limit depth base' block' (inner.placed place) =
      (ofBlock limit depth base block inner).placed place := by
  apply Forest.ext
  · simp only [Forest.regions_placed, regions_ofBlock, placedAll_eq_nil_iff, hClosed]
    split
    · rw [placedAll_nil]
    · rw [hRegion, placedAll_eq_map, List.map_singleton]
  · rw [Forest.findings_placed, findings_ofBlock, findings_ofBlock, List.map_append, List.map_map,
      hIssues, hPlace]
    rfl

/-- So does its body, if matching the body by itself does. -/
theorem matchBody_placed {limit depth base base' : Nat} {block block' : Block}
    (h : matchFrom limit (depth + 1) (base' + block'.bodyOffset) block'.body =
      (matchFrom limit (depth + 1) (base + block.bodyOffset) block.body).placed place) :
    matchBody limit depth base' block' = (matchBody limit depth base block).placed place := by
  rw [matchBody, matchBody, h]
  split
  · rw [Forest.placed_empty]
  · rfl

end Region
end ObjectOutline
