import Mathlib.Data.List.Forall2
import ObjectOutline.Proofs.Display.Unambiguous
import ObjectOutline.Proofs.Symbol.Metadata

/-! The lines of page controls. The outline of a page has one line for each control, in order. The mark of
the second column is a part of the label, so it is cut off with what else is too much of a label: the line
of a marked control ends with the mark when the label is short enough, and with an ellipsis otherwise. -/
namespace ObjectOutline.Display

/-- The icon is one that controls have. -/
def Icon.isOfControl : Icon → Bool
  | .field | .part | .group | .area | .repeater | .action | .key | .otherControl => true
  | .table | .page | .otherObject | .unparsed | .section | .property => false

/-- The lines of a page's outline that belong to controls. -/
def controlLines (showProperties : Bool) (page : Page) : List String :=
  let root := outline showProperties (.page page)
  (root.entries.filter fun entry => entry.node.icon.isOfControl).map root.drawn

/-- The label of a control without the mark. -/
def controlText (control : PageControl) : String :=
  controlLabel control.controlType control.caption false

theorem isOfControl_controlIcon (controlType : String) :
    (controlIcon controlType).isOfControl = true := by
  rw [controlIcon]
  split <;> rfl

theorem controlNode_eq (showProperties : Bool) (control : PageControl) :
    controlNode showProperties control =
      { icon := controlIcon control.controlType
        label := controlLabel control.controlType control.caption control.separator
        children := propertyNodes showProperties control.properties ++
          controlNodes showProperties control.controls } := by
  cases control
  rw [controlNode]

/-- The nodes of trees beside each other that belong to controls, in preorder. -/
def controlNodesBelow (index : Nat) (nodes : List Node) : List Node :=
  ((entriesFrom index nodes).map Entry.node).filter fun node => node.icon.isOfControl

theorem controlNodesBelow_nil (index : Nat) : controlNodesBelow index [] = [] := by
  rw [controlNodesBelow, entriesFrom]
  rfl

theorem controlNodesBelow_cons (index : Nat) (node : Node) (rest : List Node) :
    controlNodesBelow index (node :: rest) =
      (if node.icon.isOfControl then [node] else []) ++ controlNodesBelow 0 node.children ++
        controlNodesBelow (index + 1) rest := by
  have hBelow : (Entry.node ∘ Entry.below index) = Entry.node := rfl
  rw [controlNodesBelow, entriesFrom_cons, List.map_append, List.filter_append, List.map_cons,
    List.map_map, hBelow, List.filter_cons, controlNodesBelow, controlNodesBelow]
  split <;> simp

theorem controlNodesBelow_append (index : Nat) (first second : List Node) :
    controlNodesBelow index (first ++ second) =
      controlNodesBelow index first ++ controlNodesBelow (index + first.length) second := by
  induction first generalizing index with
  | nil => rw [List.nil_append, controlNodesBelow_nil, List.nil_append, List.length_nil, Nat.add_zero]
  | cons node rest ih =>
      rw [List.cons_append, controlNodesBelow_cons, ih, controlNodesBelow_cons, List.length_cons,
        Nat.add_right_comm, Nat.add_assoc index, List.append_assoc _ (controlNodesBelow (index + 1) _)]

/-- Properties do not belong to controls. -/
theorem controlNodesBelow_propertyNodes (index : Nat) (showProperties : Bool)
    (properties : List Property) :
    controlNodesBelow index (propertyNodes showProperties properties) = [] := by
  cases showProperties with
  | false => exact controlNodesBelow_nil index
  | true =>
      rw [propertyNodes, if_pos rfl]
      induction properties generalizing index with
      | nil => exact controlNodesBelow_nil index
      | cons property rest ih =>
          rw [List.map_cons, controlNodesBelow_cons, ih]
          simp [propertyNode, Icon.isOfControl, controlNodesBelow_nil]

/-- Below the section of some controls, each control has its node. -/
theorem controlNodesBelow_controlNodes (index : Nat) (showProperties : Bool)
    (controls : List PageControl) :
    controlNodesBelow index (controlNodes showProperties controls) =
      (PageControl.preorderAll controls).map (controlNode showProperties) := by
  induction controls using PageControl.inductionAll generalizing index with
  | nil =>
      rw [controlNodes, controlNodesBelow_nil, PageControl.preorderAll]
      rfl
  | cons control rest ihNested ihRest =>
      have hIcon : (controlNode showProperties control).icon.isOfControl = true := by
        rw [controlNode_eq]
        exact isOfControl_controlIcon control.controlType
      have hChildren : controlNodesBelow 0 (controlNode showProperties control).children =
          (PageControl.preorderAll control.controls).map (controlNode showProperties) := by
        rw [controlNode_eq, controlNodesBelow_append, controlNodesBelow_propertyNodes,
          ihNested, List.nil_append]
      rw [controlNodes, controlNodesBelow_cons, if_pos hIcon, hChildren, ihRest,
        PageControl.preorderAll, PageControl.preorder_eq, List.map_append, List.map_cons,
        List.singleton_append]

theorem exists_lead_of_drawn (root : Node) (entry : Entry) :
    ∃ lead, root.drawn entry = lead ++ entry.node.caption := by
  rw [Node.drawn, drawnBelow, Node.caption_eq]
  split
  · exact ⟨"", (String.empty_append ..).symm⟩
  · exact ⟨_, rfl⟩

/-- The nodes of a page's outline that belong to controls are those of its layout and its actions. -/
theorem map_node_entries_page (showProperties : Bool) (page : Page) :
    (((outline showProperties (.page page)).entries.filter
        fun entry => entry.node.icon.isOfControl).map Entry.node) =
      (page.allControls ++ PageControl.preorderAll page.actions).map
        (controlNode showProperties) := by
  have hBelow : controlNodesBelow 0 (outline showProperties (.page page)).children =
      (page.allControls ++ PageControl.preorderAll page.actions).map
        (controlNode showProperties) := by
    rw [outline, controlNodesBelow_append, controlNodesBelow_propertyNodes, controlNodesBelow_cons,
      controlNodesBelow_cons, List.map_append, Page.allControls]
    simp [sectionNode, Icon.isOfControl, controlNodesBelow_controlNodes, controlNodesBelow_nil]
  rw [← hBelow, controlNodesBelow, List.filter_map, Node.entries, List.filter_cons_of_neg]
  · rfl
  · simp [outline, Icon.isOfControl]

/-- A line that shows a label with the mark ends with the mark when there is room for all of the label, and
else with an ellipsis. -/
theorem mark_suffix_iff (front : List Char) (text : String) :
    " ‖".toList <:+ front ++ (shownLabel (text ++ " ‖")).toList ↔ text.length + 2 ≤ maxLabel := by
  have hMark : " ‖".toList = [' ', '‖'] := rfl
  have hLength : (text ++ " ‖").toList.length = text.length + 2 := by
    rw [String.toList_append, List.length_append, hMark, String.length_toList]
    rfl
  rw [shownLabel]
  split
  · next hLong =>
    rw [hLength] at hLong
    refine iff_of_false ?_ (Nat.not_le.mpr hLong)
    rw [hMark, String.toList_ofList, ← List.append_assoc]
    rintro ⟨before, hLine⟩
    have hLast := congrArg List.getLast? hLine
    simp at hLast
  · next hShort =>
    rw [hLength] at hShort
    refine iff_of_true ?_ (Nat.not_lt.mp hShort)
    rw [String.toList_append, ← List.append_assoc]
    exact List.suffix_append _ _

theorem noLineFeed_controlLabel {controlType caption : String} (hType : '\n' ∉ controlType.toList)
    (hCaption : '\n' ∉ caption.toList) (separator : Bool) :
    '\n' ∉ (controlLabel controlType caption separator).toList := by
  rw [controlLabel]
  split <;> split <;> simp [hType, hCaption]

theorem controlLabel_true (control : PageControl) :
    controlLabel control.controlType control.caption true = controlText control ++ " ‖" := rfl

/-- Some lines of a text, none of which has a line feed in it, stand in the text in their order. -/
theorem sublist_lines_join {kept lines : List String} (h : kept.Sublist lines)
    (hKept : ∀ line ∈ kept, '\n' ∉ line.toList) :
    (kept.map String.toList).Sublist
      (Text.lines (String.join (lines.map (· ++ "\n"))).toList) := by
  have hFeed : "\n".toList = ['\n'] := rfl
  induction h with
  | slnil => exact List.nil_sublist _
  | @cons kept lines line hRest ih =>
      rw [List.map_cons, String.join_cons, String.toList_append, String.toList_append, hFeed,
        List.append_assoc, List.singleton_append, Text.lines_append]
      exact (ih hKept).trans (List.sublist_append_right _ _)
  | @cons_cons kept lines line hRest ih =>
      obtain ⟨hLine, hLater⟩ := List.forall_mem_cons.mp hKept
      rw [List.map_cons, List.map_cons, String.join_cons, String.toList_append,
        String.toList_append, hFeed, List.append_assoc, List.singleton_append, Text.lines_append,
        Text.lines_of_not_mem hLine]
      exact (ih hLater).cons_cons _

/-- The marks of the second column. The outline of a page has one line for each control of its layout and its
actions, in order, and these are lines of its text. The line of a control in the second column ends with
the mark exactly when the label has room for it, which is when the type and the caption have at most 46
characters with the blank between them. -/
theorem controlLines_marked (showProperties : Bool) (page : Page)
    (h : ∀ control ∈ page.allControls ++ PageControl.preorderAll page.actions,
      '\n' ∉ control.controlType.toList ∧ '\n' ∉ control.caption.toList) :
    ((controlLines showProperties page).map String.toList).Sublist
        (Text.lines (renderOutline showProperties (.page page)).toList) ∧
      List.Forall₂
        (fun control line =>
          (∃ lead, line = lead ++ (controlNode showProperties control).caption) ∧
            (control.separator = true →
              (" ‖".toList <:+ line.toList ↔ (controlText control).length + 2 ≤ maxLabel)))
        (page.allControls ++ PageControl.preorderAll page.actions)
        (controlLines showProperties page) := by
  let root := outline showProperties (.page page)
  have hNodes := map_node_entries_page showProperties page
  constructor
  · have hLines : (controlLines showProperties page).Sublist root.lines := by
      rw [Node.lines_eq]
      exact List.filter_sublist.map root.drawn
    apply sublist_lines_join hLines
    intro line hLine
    obtain ⟨entry, hEntry, rfl⟩ := List.mem_map.mp hLine
    have hMem : entry.node ∈ (page.allControls ++ PageControl.preorderAll page.actions).map
        (controlNode showProperties) := by
      rw [← hNodes]
      exact List.mem_map.mpr ⟨entry, hEntry, rfl⟩
    obtain ⟨control, hControl, hNode⟩ := List.mem_map.mp hMem
    obtain ⟨hType, hCaption⟩ := h control hControl
    apply Node.noLineFeed_drawn
    rw [← hNode, controlNode_eq]
    exact noLineFeed_controlLabel hType hCaption control.separator
  · have hPairs : List.Forall₂ (fun control entry => controlNode showProperties control = entry.node)
        (page.allControls ++ PageControl.preorderAll page.actions)
        (root.entries.filter fun entry => entry.node.icon.isOfControl) := by
      rw [← List.forall₂_map_right_iff, hNodes]
      exact List.forall₂_map_right_iff.mpr (List.forall₂_same.mpr fun _ _ => rfl)
    apply List.forall₂_map_right_iff.mpr
    refine hPairs.imp fun control entry hNode => ?_
    obtain ⟨lead, hLine⟩ := exists_lead_of_drawn root entry
    rw [← hNode] at hLine
    refine ⟨⟨lead, hLine⟩, fun hFlag => ?_⟩
    rw [hLine, String.toList_append, toList_caption, controlNode_eq, hFlag, controlLabel_true,
      ← mark_suffix_iff (lead.toList ++ [_, ' ']), List.append_assoc]
    rfl

/-- A field in the second column with a caption of `length` characters. -/
def wideField (length : Nat) : PageControl :=
  { controlType := "field"
    name := "A"
    caption := String.ofList (List.replicate length 'a')
    separator := true }

/-- A page with two such fields. The caption of the second one is just long enough for its mark to be cut
off. -/
def twoFields : Page :=
  { header := { id := 1, name := "P", objectType := "page" }
    controls := [wideField 40, wideField 41] }

/-- The first field keeps its mark, and the second one does not. -/
theorem controlLines_twoFields :
    (∀ control ∈ twoFields.allControls ++ PageControl.preorderAll twoFields.actions,
      '\n' ∉ control.controlType.toList ∧ '\n' ∉ control.caption.toList) ∧
      ∃ first second, controlLines false twoFields = [first, second] ∧
        " ‖".toList <:+ first.toList ∧ ¬" ‖".toList <:+ second.toList := by
  have hFeeds : ∀ control ∈ twoFields.allControls ++ PageControl.preorderAll twoFields.actions,
      '\n' ∉ control.controlType.toList ∧ '\n' ∉ control.caption.toList := by decide +kernel
  obtain ⟨-, hLines⟩ := controlLines_marked false twoFields hFeeds
  obtain ⟨first, rest, ⟨-, hFirst⟩, hRest, hAll⟩ := List.forall₂_cons_left_iff.mp hLines
  obtain ⟨second, none, ⟨-, hSecond⟩, hNone, rfl⟩ := List.forall₂_cons_left_iff.mp hRest
  obtain rfl := List.forall₂_nil_left_iff.mp hNone
  refine ⟨hFeeds, first, second, hAll, (hFirst rfl).mpr (by decide +kernel), fun hMark => ?_⟩
  have hFits := (hSecond rfl).mp hMark
  exact absurd hFits (by decide +kernel)

/-- A field in the second column whose line does not end with the mark. -/
theorem mark_missing_behind_long_caption :
    (wideField 41).separator = true ∧ wideField 41 ∈ twoFields.allControls ∧
      '\n' ∉ (wideField 41).controlType.toList ∧ '\n' ∉ (wideField 41).caption.toList ∧
      controlLines false twoFields =
        ["│ ├─ • field " ++ String.ofList (List.replicate 40 'a') ++ " ‖",
          "│ └─ • field " ++ String.ofList (List.replicate 41 'a') ++ " …"] ∧
      ¬" ‖".toList <:+
        ("│ └─ • field " ++ String.ofList (List.replicate 41 'a') ++ " …").toList := by
  refine ⟨rfl, by simp [Page.allControls, twoFields, wideField, PageControl.preorderAll,
    PageControl.preorder_eq], ?_⟩
  decide +kernel

end ObjectOutline.Display
