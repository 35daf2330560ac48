import Mathlib.Data.List.Basic
import ObjectOutline.Proofs.Region.Moved
import ObjectOutline.Proofs.Symbol.Placed

/-! Symbols without their sources. A header line is kept as written, but nothing else is read off the
kept line: the symbol of a region, its sources apart, is that of the region without its own. -/
namespace ObjectOutline

def TableField.withoutSource (field : TableField) : TableField :=
  { field with source := "" }

def TableKey.withoutSource (key : TableKey) : TableKey :=
  { key with source := "" }

namespace PageControl

mutual

def withoutSource : PageControl → PageControl
  | ⟨controlType, name, caption, sourceExpression, _, properties, separator, parent, controls⟩ =>
      ⟨controlType, name, caption, sourceExpression, "", properties, separator, parent,
        withoutSourceAll controls⟩

def withoutSourceAll : List PageControl → List PageControl
  | [] => []
  | control :: rest => withoutSource control :: withoutSourceAll rest

end

theorem withoutSource_eq (control : PageControl) :
    withoutSource control =
      { control with source := "", controls := withoutSourceAll control.controls } := by
  cases control
  rw [withoutSource]

theorem withoutSourceAll_eq_map (controls : List PageControl) :
    withoutSourceAll controls = controls.map withoutSource := by
  induction controls with
  | nil => rw [withoutSourceAll, List.map_nil]
  | cons control rest ih => rw [withoutSourceAll, ih, List.map_cons]

end PageControl

/-- The symbol with every header line in it left out. -/
def ObjectSymbol.withoutSources : ObjectSymbol → ObjectSymbol
  | .table symbol =>
      .table
        { symbol with
          fields := symbol.fields.map TableField.withoutSource
          keys := symbol.keys.map TableKey.withoutSource }
  | .page symbol =>
      .page
        { symbol with
          controls := PageControl.withoutSourceAll symbol.controls
          actions := PageControl.withoutSourceAll symbol.actions }
  | .unsupported header => .unsupported header

namespace Region

mutual

/-- The region and all that is in it, without the header lines as written and without the places. -/
def withoutSource : Region → Region
  | ⟨keyword, id, name, objectType, target, _, _, properties, children⟩ =>
      ⟨keyword, id, name, objectType, target, "", 0, properties, withoutSourceAll children⟩

def withoutSourceAll : List Region → List Region
  | [] => []
  | region :: rest => withoutSource region :: withoutSourceAll rest

end

theorem withoutSource_eq (region : Region) :
    withoutSource region =
      { region with
        source := ""
        offset := 0
        children := withoutSourceAll region.children } := by
  cases region
  rw [withoutSource]

theorem withoutSourceAll_eq_map (regions : List Region) :
    withoutSourceAll regions = regions.map withoutSource := by
  induction regions with
  | nil => rw [withoutSourceAll, List.map_nil]
  | cons region rest ih => rw [withoutSourceAll, ih, List.map_cons]

theorem withoutSourceAll_append (first second : List Region) :
    withoutSourceAll (first ++ second) = withoutSourceAll first ++ withoutSourceAll second := by
  simp only [withoutSourceAll_eq_map, List.map_append]

theorem withoutSourceAll_eq_nil_iff (regions : List Region) :
    withoutSourceAll regions = [] ↔ regions = [] := by
  rw [withoutSourceAll_eq_map, List.map_eq_nil_iff]

/-- Nothing is left by which moved regions differ from the ones that they were. -/
theorem withoutSourceAll_movedAll (distance : Nat) (regions : List Region) :
    withoutSourceAll (movedAll distance regions) = withoutSourceAll regions := by
  induction regions using inductionAll with
  | nil => rw [movedAll]
  | cons region rest ihInner ihRest =>
      rw [movedAll, withoutSourceAll, withoutSourceAll, ihRest, withoutSource_eq, withoutSource_eq,
        moved_eq]
      simp only [ihInner]

theorem toTableField_withoutSource (region : Region) :
    region.withoutSource.toTableField = region.toTableField.withoutSource := by
  rw [withoutSource_eq]
  rfl

theorem toTableKey_withoutSource (region : Region) :
    region.withoutSource.toTableKey = region.toTableKey.withoutSource := by
  rw [withoutSource_eq]
  rfl

theorem toControlsFrom_withoutSourceAll (parent : Option EnclosingControl) (index count : Nat)
    (regions : List Region) :
    toControlsFrom parent index count (withoutSourceAll regions) =
      PageControl.withoutSourceAll (toControlsFrom parent index count regions) := by
  induction regions using inductionAll generalizing parent index count with
  | nil => rw [withoutSourceAll, toControlsFrom, PageControl.withoutSourceAll]
  | cons region rest ihInner ihRest =>
      have hLength : (withoutSourceAll region.children).length = region.children.length := by
        rw [withoutSourceAll_eq_map, List.length_map]
      rw [withoutSourceAll, toControlsFrom, toControlsFrom, PageControl.withoutSourceAll, ihRest,
        toControl_eq, toControl_eq, PageControl.withoutSource_eq, withoutSource_eq]
      simp only [hLength, ihInner]
      rfl

theorem toControls_withoutSourceAll (parent : Option EnclosingControl) (regions : List Region) :
    toControls parent (withoutSourceAll regions) =
      PageControl.withoutSourceAll (toControls parent regions) := by
  rw [toControls, toControls, toControlsFrom_withoutSourceAll, withoutSourceAll_eq_map,
    List.length_map]

theorem isKeyword_withoutSource (region : Region) (keyword : String) :
    region.withoutSource.isKeyword keyword = region.isKeyword keyword := by
  rw [withoutSource_eq]
  rfl

theorem children_withoutSource (region : Region) :
    region.withoutSource.children = withoutSourceAll region.children := by
  rw [withoutSource_eq]

theorem objectHeader_withoutSource (region : Region) :
    region.withoutSource.objectHeader = region.objectHeader := by
  rw [withoutSource_eq]
  rfl

/-- What the children declare one behind the other loses its sources with them. -/
theorem flatMap_withoutSourceAll {α : Type} {declared : Region → List α} {drop : α → α}
    (h : ∀ region, declared region.withoutSource = (declared region).map drop)
    (regions : List Region) :
    (withoutSourceAll regions).flatMap declared = (regions.flatMap declared).map drop := by
  rw [withoutSourceAll_eq_map, List.flatMap_map, List.map_flatMap]
  exact List.flatMap_congr fun region _ => h region

theorem toTable_withoutSource (region : Region) :
    region.withoutSource.toTable =
      { region.toTable with
        fields := region.toTable.fields.map TableField.withoutSource
        keys := region.toTable.keys.map TableKey.withoutSource } := by
  rw [toTable, toTable, objectHeader_withoutSource, children_withoutSource]
  congr 1
  · apply flatMap_withoutSourceAll
    intro child
    rw [isKeyword_withoutSource, children_withoutSource, withoutSourceAll_eq_map]
    split
    · simp only [List.map_map, Function.comp_def, toTableField_withoutSource]
    · rfl
  · apply flatMap_withoutSourceAll
    intro child
    rw [isKeyword_withoutSource, children_withoutSource, withoutSourceAll_eq_map]
    split
    · simp only [List.map_map, Function.comp_def, toTableKey_withoutSource]
    · rfl

theorem toPage_withoutSource (region : Region) :
    region.withoutSource.toPage =
      { region.toPage with
        controls := PageControl.withoutSourceAll region.toPage.controls
        actions := PageControl.withoutSourceAll region.toPage.actions } := by
  rw [toPage, toPage, objectHeader_withoutSource, children_withoutSource,
    PageControl.withoutSourceAll_eq_map, PageControl.withoutSourceAll_eq_map]
  congr 1
  · apply flatMap_withoutSourceAll
    intro child
    rw [isKeyword_withoutSource, children_withoutSource, toControls_withoutSourceAll,
      PageControl.withoutSourceAll_eq_map]
    split <;> rfl
  · apply flatMap_withoutSourceAll
    intro child
    rw [isKeyword_withoutSource, children_withoutSource, toControls_withoutSourceAll,
      PageControl.withoutSourceAll_eq_map]
    split <;> rfl

/-- The symbol of a region without its source is the symbol of the region, its sources apart. -/
theorem toSymbol_withoutSource (region : Region) :
    region.withoutSource.toSymbol = region.toSymbol.withoutSources := by
  have hType : region.withoutSource.objectType = region.objectType := by
    rw [withoutSource_eq]
  rw [toSymbol, toSymbol, hType, toTable_withoutSource, toPage_withoutSource,
    objectHeader_withoutSource]
  cases ObjectKind.ofType region.objectType <;> rfl

end Region
end ObjectOutline
