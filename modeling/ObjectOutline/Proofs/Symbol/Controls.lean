import Mathlib.Algebra.GroupWithZero.Nat
import Mathlib.Data.List.Forall2
import ObjectOutline.Proofs.Region.DepthLimit
import ObjectOutline.Proofs.Symbol.Placed

/-! Page controls against regions. The controls of a page have the shape of the regions that declare
them, and each carries the type, name and flag of the control that it stands in as that control ends up. -/
namespace ObjectOutline

/-- The control is declared by the region. -/
structure PageControl.IsOf (control : PageControl) (region : Region) : Prop where
  controlType : control.controlType = region.keyword
  source : control.source = region.source
  properties : control.properties = region.properties

namespace Region

/-- Controls of the same shape as the regions, each declared by the region in its place, and each with
the type, name and flag of the control around it; `parent` is what is around the first level. -/
inductive Mirrors : Option EnclosingControl → List Region → List PageControl → Prop
  | nil {parent : Option EnclosingControl} : Mirrors parent [] []
  | cons {parent : Option EnclosingControl} {region : Region} {control : PageControl}
      {regions : List Region} {controls : List PageControl}
      (declared : control.IsOf region) (placed : control.parent = parent)
      (nested : Mirrors
        (some {
          controlType := control.controlType, name := control.name, separator := control.separator })
        region.children control.controls)
      (rest : Mirrors parent regions controls) :
      Mirrors parent (region :: regions) (control :: controls)

theorem Mirrors.append {parent : Option EnclosingControl} {first second : List Region}
    {firstControls secondControls : List PageControl} (hFirst : Mirrors parent first firstControls)
    (hSecond : Mirrors parent second secondControls) :
    Mirrors parent (first ++ second) (firstControls ++ secondControls) := by
  induction hFirst with
  | nil => exact hSecond
  | cons declared placed nested rest ihNested ihRest =>
      exact .cons declared placed nested (ihRest hSecond)

theorem isOf_toControl (parent : Option EnclosingControl) (index count : Nat) (region : Region) :
    (toControl parent index count region).IsOf region := by
  rw [toControl_eq]
  exact ⟨rfl, rfl, rfl⟩

theorem parent_toControl (parent : Option EnclosingControl) (index count : Nat) (region : Region) :
    (toControl parent index count region).parent = parent := by
  rw [toControl_eq]
  rfl

/-- The copy that the nested controls are given is made before they are attached, and is still right
when they are: attaching them changes nothing that the copy holds. -/
theorem controls_toControl (parent : Option EnclosingControl) (index count : Nat)
    (region : Region) :
    (toControl parent index count region).controls =
      toControls (some (toControl parent index count region).snapshot) region.children := by
  rw [toControl_eq, toControls]
  rfl

theorem mirrors_toControlsFrom (parent : Option EnclosingControl) (index count : Nat)
    (regions : List Region) :
    Mirrors parent regions (toControlsFrom parent index count regions) := by
  induction regions using inductionAll generalizing parent index count with
  | nil =>
      rw [toControlsFrom]
      exact .nil
  | cons region rest ihInner ihRest =>
      rw [toControlsFrom]
      apply Mirrors.cons
      · exact isOf_toControl parent index count region
      · exact parent_toControl parent index count region
      · rw [controls_toControl]
        exact ihInner _ _ _
      · exact ihRest parent (index + 1) count

theorem mirrors_toControls (parent : Option EnclosingControl) (regions : List Region) :
    Mirrors parent regions (toControls parent regions) :=
  mirrors_toControlsFrom parent 1 regions.length regions

/-- All regions of a list of trees, each before what it holds. -/
def preorderAll (regions : List Region) : List Region :=
  (occurrencesAll [] regions).map Occurrence.region

theorem map_region_occurrencesAll (around : List Nat) (regions : List Region) :
    (occurrencesAll around regions).map Occurrence.region = preorderAll regions := by
  rw [preorderAll]
  -- What is around a region is different on both sides, so the induction speaks of any two.
  generalize ([] : List Nat) = other
  induction regions using inductionAll generalizing around other with
  | nil => simp
  | cons region rest ihInner ihRest =>
      rw [occurrencesAll_cons, occurrencesAll_cons, List.map_append, List.map_append, List.map_cons,
        List.map_cons, ihInner _ (region.offset :: other), ihRest around other]

theorem preorderAll_cons (region : Region) (rest : List Region) :
    preorderAll (region :: rest) = region :: preorderAll region.children ++ preorderAll rest := by
  rw [preorderAll, occurrencesAll_cons, List.map_append, List.map_cons, map_region_occurrencesAll,
    map_region_occurrencesAll]

theorem length_preorderAll (regions : List Region) :
    (preorderAll regions).length = countAll regions := by
  induction regions using inductionAll with
  | nil =>
      rw [countAll]
      rfl
  | cons region rest ihInner ihRest =>
      have hCount : count region = 1 + countAll region.children := by
        cases region
        rw [count]
      rw [preorderAll_cons, List.length_append, List.length_cons, ihInner, ihRest, countAll, hCount]
      omega

/-- The regions below those of a list, and the counts of their trees without the roots. -/
theorem countAll_flatMap_children (regions : List Region) :
    countAll (regions.flatMap (·.children)) = (regions.map fun region => region.count - 1).sum := by
  induction regions with
  | nil =>
      rw [List.flatMap_nil, countAll]
      rfl
  | cons region rest ih =>
      have hCount : count region = 1 + countAll region.children := by
        cases region
        rw [count]
      rw [List.flatMap_cons, countAll_append, ih, List.map_cons, List.sum_cons, hCount]
      omega

theorem Mirrors.forall₂_preorderAll {parent : Option EnclosingControl} {regions : List Region}
    {controls : List PageControl} (h : Mirrors parent regions controls) :
    List.Forall₂ PageControl.IsOf (PageControl.preorderAll controls) (preorderAll regions) := by
  induction h with
  | nil =>
      rw [PageControl.preorderAll]
      exact .nil
  | cons declared placed nested rest ihNested ihRest =>
      rw [PageControl.preorderAll, PageControl.preorder_eq, preorderAll_cons]
      exact List.rel_append (.cons declared ihNested) ihRest

theorem Mirrors.length_preorderAll {parent : Option EnclosingControl} {regions : List Region}
    {controls : List PageControl} (h : Mirrors parent regions controls) :
    (PageControl.preorderAll controls).length = countAll regions := by
  rw [h.forall₂_preorderAll.length_eq, Region.length_preorderAll]

/-- The children of a page whose regions declare its controls. -/
def layoutGroups (root : Region) : List Region :=
  root.children.filter fun child => child.keyword.toLower != "actions"

/-- The children of a page whose regions declare its actions. -/
def actionGroups (root : Region) : List Region :=
  root.children.filter fun child => child.keyword.toLower == "actions"

theorem isKeyword_actions (region : Region) :
    region.isKeyword "actions" = (region.keyword.toLower == "actions") := by
  have hLower : "actions".toLower = "actions" := by
    rw [← String.toList_inj, Text.toList_toLower]
    rfl
  rw [isKeyword, Text.sameWord_eq, hLower]

/-- Each picked child has its own controls, and they stand one behind the other. -/
theorem mirrors_flatMap_toControls (picked : Region → Bool) (children : List Region) :
    Mirrors none ((children.filter picked).flatMap (·.children))
      (children.flatMap fun child => if picked child then toControls none child.children else []) := by
  induction children with
  | nil => exact .nil
  | cons child rest ih =>
      rw [List.flatMap_cons]
      by_cases hPicked : picked child
      · rw [List.filter_cons_of_pos hPicked, List.flatMap_cons, if_pos hPicked]
        exact (mirrors_toControls none child.children).append ih
      · rw [List.filter_cons_of_neg hPicked, if_neg hPicked, List.nil_append]
        exact ih

theorem mirrors_controls_toPage (root : Region) :
    Mirrors none (root.layoutGroups.flatMap (·.children)) root.toPage.controls := by
  have hControls : root.toPage.controls = root.children.flatMap fun child =>
      if child.keyword.toLower != "actions" then toControls none child.children else [] := by
    apply List.flatMap_congr
    intro child _
    rw [isKeyword_actions, bne]
    cases child.keyword.toLower == "actions" <;> rfl
  rw [hControls]
  exact mirrors_flatMap_toControls _ root.children

theorem mirrors_actions_toPage (root : Region) :
    Mirrors none (root.actionGroups.flatMap (·.children)) root.toPage.actions := by
  have hActions : root.toPage.actions = root.children.flatMap fun child =>
      if child.keyword.toLower == "actions" then toControls none child.children else [] := by
    apply List.flatMap_congr
    intro child _
    rw [isKeyword_actions]
  rw [hActions]
  exact mirrors_flatMap_toControls _ root.children

/-- Controls have the shape of the regions that declare them, and each says of the control around it the
type, the name and the flag that this control ends up with. So a page lists in preorder one control for
every region below its layout groups, and one action for every region below its groups of actions. -/
theorem toControls_mirror_regions :
    (∀ (parent : Option PageControl) (regions : List Region),
      Mirrors
        (parent.map fun around => {
          controlType := around.controlType, name := around.name, separator := around.separator })
        regions (toControls (parent.map PageControl.snapshot) regions)) ∧
    ∀ root : Region,
      List.Forall₂ PageControl.IsOf root.toPage.allControls
        (preorderAll (root.layoutGroups.flatMap (·.children))) ∧
      root.toPage.allControls.length = (root.layoutGroups.map fun group => group.count - 1).sum ∧
      List.Forall₂ PageControl.IsOf (PageControl.preorderAll root.toPage.actions)
        (preorderAll (root.actionGroups.flatMap (·.children))) ∧
      (PageControl.preorderAll root.toPage.actions).length =
        (root.actionGroups.map fun group => group.count - 1).sum := by
  refine ⟨?_, ?_⟩
  · intro parent regions
    exact mirrors_toControls _ regions
  · intro root
    have hControls := mirrors_controls_toPage root
    have hActions := mirrors_actions_toPage root
    refine ⟨hControls.forall₂_preorderAll, ?_, hActions.forall₂_preorderAll, ?_⟩
    · rw [Page.allControls, hControls.length_preorderAll, countAll_flatMap_children]
    · rw [hActions.length_preorderAll, countAll_flatMap_children]

/-- Three groups beside each other, one of them with a group inside. -/
def salesGroups : List Region :=
  [{ keyword := "group"
     name := some "general"
     children := [{ keyword := "field", name := some "Buyer; Rec.Buyer" }] },
   { keyword := "group"
     name := some "shipping"
     children :=
      [{ keyword := "group"
         name := some "address"
         children := [{ keyword := "field", name := some "City; Rec.City" }] }] },
   { keyword := "group"
     name := some "posting"
     children := [{ keyword := "field", name := some "Date; Rec.Date" }] }]

/-- A page with these groups and with an action. -/
def salesPage : Region :=
  { keyword := "page"
    id := some 42
    name := some "Sales Order"
    objectType := "page"
    children :=
      [{ keyword := "layout", children := salesGroups },
       { keyword := "Actions"
         children := [{ keyword := "area", children := [{ keyword := "action" }] }] }] }

/-- The last group stands in the second column and the field in it says so. The other two stand in the
first column, and so does the group in one of them, which is the only one in its row. -/
theorem toControls_mirror_salesPage :
    Mirrors none salesGroups salesPage.toPage.controls ∧
    (salesPage.toPage.allControls.map fun control =>
        (control.name, control.separator, control.parent)) =
      [("General", false, none),
       ("Buyer", false, some { controlType := "group", name := "General", separator := false }),
       ("Shipping", false, none),
       ("Address", false, some { controlType := "group", name := "Shipping", separator := false }),
       ("City", false, some { controlType := "group", name := "Address", separator := false }),
       ("Posting", true, none),
       ("Date", true, some { controlType := "group", name := "Posting", separator := true })] ∧
    salesPage.toPage.allControls.length = 7 ∧
    (PageControl.preorderAll salesPage.toPage.actions).length = 2 := by
  obtain ⟨hMirrors, hPage⟩ := toControls_mirror_regions
  obtain ⟨-, hControls, -, hActions⟩ := hPage salesPage
  refine ⟨hMirrors none salesGroups, by decide +kernel, ?_, ?_⟩
  · rw [hControls]
    decide +kernel
  · rw [hActions]
    decide +kernel

end Region
end ObjectOutline
