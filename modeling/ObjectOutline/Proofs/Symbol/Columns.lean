import ObjectOutline.Proofs.Symbol.Controls

/-! The two columns of a page at every depth. A row of controls divides in a place that its length alone
determines, unless the control around it stands in the second column; then the whole row does, and so does
all that is nested in it. -/
namespace ObjectOutline

namespace Columns

/-- How many controls of a row stand in the first column, if the control around them does. -/
def firstCount (count : Nat) : Nat :=
  if count % 2 = 0 then count / 2 - 1 else (count + 1) / 2

/-- The place of a control among those beside it: its position, counted from one, and their number. -/
structure Place where
  position : Nat
  count : Nat

/-- The place lies behind those of the first column. -/
def Place.IsSecond (place : Place) : Prop :=
  firstCount place.count < place.position

instance (place : Place) : Decidable place.IsSecond :=
  inferInstanceAs (Decidable (_ < _))

theorem firstCount_le (count : Nat) : firstCount count ≤ count := by
  rw [firstCount]
  split <;> omega

theorem startsSecond_succ_iff (index count : Nat) :
    startsSecond (index + 1) count = true ↔ firstCount count < index + 1 := by
  rw [startsSecond, firstCount, midpoint]
  split
  · rw [decide_eq_true_iff]
    omega
  · exact decide_eq_true_iff

theorem length_separators (count : Nat) (inherited : Bool) :
    (separators count inherited).length = count := by
  rw [separators, List.length_map, List.length_range]

/-- Below a control in the second column, a row stands in the second column. -/
theorem separators_true (count : Nat) : separators count true = List.replicate count true := by
  simp [separators, List.map_const']

/-- Elsewhere the first controls of a row stand in the first column and the others in the second. -/
theorem separators_false (count : Nat) :
    separators count false =
      List.replicate (firstCount count) false ++
        List.replicate (count - firstCount count) true := by
  have hLength := firstCount_le count
  apply List.ext_getElem
  · rw [length_separators, List.length_append, List.length_replicate, List.length_replicate]
    omega
  · intro index hLeft hRight
    have hFlag : (separators count false)[index] = startsSecond (index + 1) count := by
      simp [separators]
    rw [hFlag, Bool.eq_iff_iff, startsSecond_succ_iff]
    by_cases hFirst : index < firstCount count
    · rw [List.getElem_append_left (by simpa using hFirst), List.getElem_replicate]
      exact iff_of_false (by omega) Bool.false_ne_true
    · rw [List.getElem_append_right (by simpa using hFirst), List.getElem_replicate]
      exact iff_of_true (by omega) rfl

end Columns

namespace PageControl

/-- From the first row of some trees, a path leads to a control: it gives the place of every control on the
way, the one that it leads to included. -/
inductive Leads : List PageControl → List Columns.Place → PageControl → Prop
  | here {controls : List PageControl} {index : Nat} {control : PageControl}
      (found : controls[index]? = some control) :
      Leads controls [⟨index + 1, controls.length⟩] control
  | nested {controls : List PageControl} {index : Nat} {control inner : PageControl}
      {path : List Columns.Place} (found : controls[index]? = some control)
      (deeper : Leads control.controls path inner) :
      Leads controls (⟨index + 1, controls.length⟩ :: path) inner

end PageControl

namespace Region

/-- The flag that the control around a row hands down to it. -/
def inheritedFlag (parent : Option EnclosingControl) : Bool :=
  (parent.map (·.separator)).getD false

theorem getElem?_toControlsFrom (parent : Option EnclosingControl) (start count : Nat)
    (regions : List Region) (index : Nat) :
    (toControlsFrom parent start count regions)[index]? =
      regions[index]?.map (toControl parent (start + index) count) := by
  induction regions generalizing start index with
  | nil => simp [toControlsFrom]
  | cons region rest ih =>
      rw [toControlsFrom]
      cases index with
      | zero => rfl
      | succ index =>
          rw [List.getElem?_cons_succ, List.getElem?_cons_succ, ih, Nat.add_right_comm,
            Nat.add_assoc]

theorem getElem?_toControls (parent : Option EnclosingControl) (regions : List Region)
    (index : Nat) :
    (toControls parent regions)[index]? =
      regions[index]?.map (toControl parent (index + 1) regions.length) := by
  rw [toControls, getElem?_toControlsFrom, Nat.add_comm]

theorem length_toControls (parent : Option EnclosingControl) (regions : List Region) :
    (toControls parent regions).length = regions.length := by
  have hShape := mirrors_toControls parent regions
  generalize toControls parent regions = controls at hShape
  induction hShape with
  | nil => rfl
  | cons declared placed nested rest ihNested ihRest =>
      rw [List.length_cons, List.length_cons, ihRest]

theorem separator_toControl (parent : Option EnclosingControl) (index count : Nat)
    (region : Region) :
    (toControl parent index count region).separator =
      (inheritedFlag parent || Columns.startsSecond index count) := by
  rw [toControl_eq]
  rfl

/-- What a row inside this control inherits is the flag that the control has in the end. -/
theorem inheritedFlag_snapshot (control : PageControl) :
    inheritedFlag (some control.snapshot) = control.separator := rfl

/-- The flags of the first row. -/
theorem map_separator_toControls (parent : Option EnclosingControl) (regions : List Region) :
    (toControls parent regions).map (·.separator) =
      Columns.separators (toControls parent regions).length (inheritedFlag parent) := by
  rw [length_toControls]
  apply List.ext_getElem?
  intro index
  rw [List.getElem?_map, getElem?_toControls, Columns.separators, List.getElem?_map, Option.map_map]
  by_cases hIndex : index < regions.length
  · rw [List.getElem?_eq_getElem hIndex, List.getElem?_range hIndex]
    exact congrArg some (separator_toControl parent (index + 1) regions.length _)
  · rw [List.getElem?_eq_none (Nat.not_lt.mp hIndex),
      List.getElem?_eq_none (by simpa using hIndex)]
    rfl

/-- A control found in a row is the one of a region, which its nested controls come from too. -/
theorem exists_of_found {parent : Option EnclosingControl} {regions : List Region} {index : Nat}
    {control : PageControl} (h : (toControls parent regions)[index]? = some control) :
    ∃ children,
      control.separator = (inheritedFlag parent || Columns.startsSecond (index + 1) regions.length) ∧
        control.controls = toControls (some control.snapshot) children := by
  rw [getElem?_toControls] at h
  obtain ⟨region, -, rfl⟩ := Option.map_eq_some_iff.mp h
  exact ⟨region.children, separator_toControl _ _ _ _, controls_toControl _ _ _ _⟩

section

variable {parent : Option EnclosingControl} {regions : List Region} {path : List Columns.Place}
  {control : PageControl}

/-- Wherever a path leads, the row below is again one that inherits the flag of that control. -/
theorem exists_children_of_leads
    (h : PageControl.Leads (toControls parent regions) path control) :
    ∃ children, control.controls = toControls (some control.snapshot) children := by
  generalize hControls : toControls parent regions = controls at h
  induction h generalizing parent regions with
  | here found =>
      obtain ⟨children, -, hNested⟩ := exists_of_found (hControls ▸ found)
      exact ⟨children, hNested⟩
  | nested found deeper ih =>
      obtain ⟨children, -, hNested⟩ := exists_of_found (hControls ▸ found)
      exact ih hNested.symm

/-- The flag of a control is told from the path to it. -/
theorem separator_iff_of_leads (h : PageControl.Leads (toControls parent regions) path control) :
    control.separator = true ↔ inheritedFlag parent = true ∨ ∃ place ∈ path, place.IsSecond := by
  generalize hControls : toControls parent regions = controls at h
  induction h generalizing parent regions with
  | @here _ index control found =>
      subst hControls
      obtain ⟨children, hFlag, -⟩ := exists_of_found found
      rw [hFlag, Bool.or_eq_true, Columns.startsSecond_succ_iff, length_toControls]
      simp [Columns.Place.IsSecond]
  | @nested _ index control inner path found deeper ih =>
      subst hControls
      obtain ⟨children, hFlag, hNested⟩ := exists_of_found found
      rw [ih hNested.symm, inheritedFlag_snapshot, hFlag, Bool.or_eq_true,
        Columns.startsSecond_succ_iff, length_toControls, List.exists_mem_cons_iff, or_assoc]
      rfl

end

/-- The columns of a page. The flags of every row are those of its length under the flag of the control
around it: all set below a set flag, and else unset up to a place that the length determines and set behind
it. So a control stands in the second column when the control given from outside does, or when it or a
control around it stands behind that place of its own row, and what is nested in it stands there too. -/
theorem separators_toControls (parent : Option EnclosingControl) (regions : List Region) :
    ((toControls parent regions).map (·.separator) =
        Columns.separators (toControls parent regions).length (inheritedFlag parent) ∧
      ∀ path control, PageControl.Leads (toControls parent regions) path control →
        control.controls.map (·.separator) =
          Columns.separators control.controls.length control.separator) ∧
    (∀ count,
      Columns.separators count true = List.replicate count true ∧
      Columns.separators count false =
        List.replicate (Columns.firstCount count) false ++
          List.replicate (count - Columns.firstCount count) true) ∧
    ∀ path control, PageControl.Leads (toControls parent regions) path control →
      (control.separator = true ↔
        inheritedFlag parent = true ∨ ∃ place ∈ path, place.IsSecond) ∧
      (control.separator = true → ∀ deeper inner, PageControl.Leads control.controls deeper inner →
        inner.separator = true) := by
  refine ⟨⟨map_separator_toControls parent regions, ?_⟩, ?_, ?_⟩
  · intro path control hLeads
    obtain ⟨children, hNested⟩ := exists_children_of_leads hLeads
    rw [hNested]
    exact map_separator_toControls _ children
  · exact fun count => ⟨Columns.separators_true count, Columns.separators_false count⟩
  · intro path control hLeads
    refine ⟨separator_iff_of_leads hLeads, fun hFlag deeper inner hInner => ?_⟩
    obtain ⟨children, hNested⟩ := exists_children_of_leads hLeads
    rw [hNested] at hInner
    exact (separator_iff_of_leads hInner).mpr (Or.inl hFlag)

/-- Three groups side by side, with three fields in each. -/
def groupedFields : List Region :=
  List.replicate 3 { keyword := "group", children := List.replicate 3 { keyword := "field" } }

/-- The last group stands in the second column, and so does the first of its fields, although it is the
first one in its row. -/
theorem separators_groupedFields :
    ∃ group field,
      PageControl.Leads (toControls none groupedFields) [⟨3, 3⟩] group ∧
        PageControl.Leads group.controls [⟨1, 3⟩] field ∧
          group.separator = true ∧ field.separator = true := by
  let group := toControl none 3 3 groupedFields[2]
  let field := toControl (some group.snapshot) 1 3 { keyword := "field" }
  have hGroup : PageControl.Leads (toControls none groupedFields) [⟨3, 3⟩] group :=
    .here (getElem?_toControls none groupedFields 2)
  have hField : PageControl.Leads group.controls [⟨1, 3⟩] field := by
    rw [controls_toControl]
    exact .here (getElem?_toControls (some group.snapshot) _ 0)
  obtain ⟨hFlag, hBelow⟩ := (separators_toControls none groupedFields).2.2 _ _ hGroup
  have hSecond : group.separator = true := hFlag.mpr (Or.inr ⟨⟨3, 3⟩, by simp, by decide⟩)
  exact ⟨group, field, hGroup, hField, hSecond, hBelow hSecond _ _ hField⟩

end Region
end ObjectOutline
