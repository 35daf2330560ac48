import ObjectOutline.Proofs.Region.Placed
import ObjectOutline.Symbol.Build

/-! The symbol of an object does not say where its source stands: regions at other places declare the
same tables, pages and controls. -/
namespace ObjectOutline.Region

variable (place : Nat → Nat)

theorem toTableField_placed (region : Region) :
    (placed place region).toTableField = region.toTableField := by
  rw [placed_eq]
  rfl

theorem toTableKey_placed (region : Region) :
    (placed place region).toTableKey = region.toTableKey := by
  rw [placed_eq]
  rfl

theorem toControl_eq (parent : Option EnclosingControl) (index count : Nat) (region : Region) :
    toControl parent index count region =
      { placeControl region.bareControl parent index count with
        controls :=
          toControlsFrom (some (placeControl region.bareControl parent index count).snapshot) 1
            region.children.length region.children } := by
  cases region
  rw [toControl]

theorem toControlsFrom_placedAll (parent : Option EnclosingControl) (index count : Nat)
    (regions : List Region) :
    toControlsFrom parent index count (placedAll place regions) =
      toControlsFrom parent index count regions := by
  induction regions using inductionAll generalizing parent index count with
  | nil => rw [placedAll]
  | cons region rest ihInner ihRest =>
      rw [placedAll, toControlsFrom, toControlsFrom, ihRest, toControl_eq, toControl_eq]
      simp only [placed_eq, length_placedAll, ihInner]
      rfl

theorem toControls_placedAll (parent : Option EnclosingControl) (regions : List Region) :
    toControls parent (placedAll place regions) = toControls parent regions := by
  rw [toControls, toControls, length_placedAll, toControlsFrom_placedAll]

theorem isKeyword_placed (region : Region) (keyword : String) :
    (placed place region).isKeyword keyword = region.isKeyword keyword := by
  rw [placed_eq]
  rfl

theorem objectHeader_placed (region : Region) :
    (placed place region).objectHeader = region.objectHeader := by
  rw [placed_eq]
  rfl

theorem map_placedAll {α : Type} {f : Region → α}
    (h : ∀ region, f (placed place region) = f region) (regions : List Region) :
    (placedAll place regions).map f = regions.map f := by
  rw [placedAll_eq_map, List.map_map]
  exact List.map_congr_left fun region _ => h region

theorem flatMap_placedAll {α : Type} {f : Region → List α}
    (h : ∀ region, f (placed place region) = f region) (regions : List Region) :
    (placedAll place regions).flatMap f = regions.flatMap f := by
  rw [List.flatMap, map_placedAll place h, List.flatMap]

theorem toTable_placed (region : Region) : (placed place region).toTable = region.toTable := by
  rw [toTable, toTable, objectHeader_placed, children_placed]
  congr 1
  · apply flatMap_placedAll
    intro child
    rw [isKeyword_placed, children_placed, map_placedAll place (toTableField_placed place)]
  · apply flatMap_placedAll
    intro child
    rw [isKeyword_placed, children_placed, map_placedAll place (toTableKey_placed place)]

theorem toPage_placed (region : Region) : (placed place region).toPage = region.toPage := by
  rw [toPage, toPage, objectHeader_placed, children_placed]
  congr 1
  · apply flatMap_placedAll
    intro child
    rw [isKeyword_placed, children_placed, toControls_placedAll]
  · apply flatMap_placedAll
    intro child
    rw [isKeyword_placed, children_placed, toControls_placedAll]

/-- A region at another place declares the same symbol. -/
theorem toSymbol_placed (region : Region) :
    (placed place region).toSymbol = region.toSymbol := by
  have hType : (placed place region).objectType = region.objectType := by
    rw [placed_eq]
  rw [toSymbol, toSymbol, hType, toTable_placed, toPage_placed, objectHeader_placed]

end ObjectOutline.Region
