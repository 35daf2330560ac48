import ObjectOutline.Proofs.Display.ControlLines

/-! Outlines with and without properties. The nodes of properties have nothing below them and stand before
all other nodes beside them, so no other node loses its place as the last of its siblings when they are left
out: the outline without properties has the lines of the one with them, apart from those of properties. -/
namespace ObjectOutline.Display

/-- The symbol behind the connector of a drawn line. The line of a root has no connector. -/
def iconOf? : List Char → Option Char
  | '│' :: ' ' :: rest => iconOf? rest
  | ' ' :: ' ' :: rest => iconOf? rest
  | '├' :: '─' :: ' ' :: icon :: _ => some icon
  | '└' :: '─' :: ' ' :: icon :: _ => some icon
  | _ => none

/-- A drawn text without the lines of properties. -/
def withoutPropertyLines (text : List Char) : List Char :=
  ['\n'].intercalate ((Text.lines text).filter fun line => iconOf? line ≠ some '·')

mutual

/-- A tree without the nodes of properties below its root. -/
def Node.withoutProperties : Node → Node
  | ⟨icon, label, children⟩ => ⟨icon, label, withoutPropertiesAll children⟩

/-- Trees beside each other without the nodes of properties. -/
def withoutPropertiesAll : List Node → List Node
  | [] => []
  | node :: rest =>
    if node.icon = .property then withoutPropertiesAll rest
    else node.withoutProperties :: withoutPropertiesAll rest

end

/-- In trees beside each other, and at every level below them, the nodes of properties have no nodes below
them and come first. -/
inductive PropertiesFirst : List Node → Prop where
  | nil : PropertiesFirst []
  | property {node : Node} {rest : List Node} (hIcon : node.icon = .property)
      (hLeaf : node.children = []) (hRest : PropertiesFirst rest) : PropertiesFirst (node :: rest)
  | other {node : Node} {rest : List Node} (hIcon : node.icon ≠ .property)
      (hLater : ∀ later ∈ rest, later.icon ≠ .property) (hBelow : PropertiesFirst node.children)
      (hRest : PropertiesFirst rest) : PropertiesFirst (node :: rest)

theorem Node.withoutProperties_eq (node : Node) :
    node.withoutProperties = { node with children := withoutPropertiesAll node.children } := by
  cases node
  rw [withoutProperties]

theorem caption_withoutProperties (node : Node) : node.withoutProperties.caption = node.caption := by
  rw [Node.withoutProperties_eq]
  rfl

section

variable {nodes rest : List Node} {node : Node}

theorem withoutPropertiesAll_cons_property (h : node.icon = .property) :
    withoutPropertiesAll (node :: rest) = withoutPropertiesAll rest := by
  rw [withoutPropertiesAll, if_pos h]

theorem withoutPropertiesAll_cons_other (h : node.icon ≠ .property) :
    withoutPropertiesAll (node :: rest) = node.withoutProperties :: withoutPropertiesAll rest := by
  rw [withoutPropertiesAll, if_neg h]

/-- Where no node is that of a property, all of them are kept. -/
theorem withoutPropertiesAll_eq_map (h : ∀ node ∈ nodes, node.icon ≠ .property) :
    withoutPropertiesAll nodes = nodes.map Node.withoutProperties := by
  induction nodes with
  | nil => rw [withoutPropertiesAll, List.map_nil]
  | cons node rest ih =>
      obtain ⟨hNode, hRest⟩ := List.forall_mem_cons.mp h
      rw [withoutPropertiesAll_cons_other hNode, List.map_cons, ih hRest]

end

/-- A node is the last of its siblings or not, and what is behind the connector is its icon. -/
theorem iconOf?_connector (isLast : Bool) (node : Node) :
    iconOf? (connector isLast ++ node.caption).toList = some node.icon.glyph := by
  rw [String.toList_append, toList_connector, toList_caption]
  cases isLast <;> simp [iconOf?]

theorem iconOf?_column (isLast : Bool) (line : List Char) :
    iconOf? ((column isLast).toList ++ line) = iconOf? line := by
  cases isLast <;> simp [column, iconOf?]

theorem iconOf?_root (node : Node) : iconOf? node.caption.toList = none := by
  rw [toList_caption]
  cases node.icon <;> simp [iconOf?, Icon.glyph]

/-- The line is not that of a property. -/
def isKept (line : String) : Bool :=
  iconOf? line.toList ≠ some '·'

/-- A line is kept when its node is not that of a property. `lead` is made of columns. -/
theorem isKept_iff {lead : String} (hLead : ∀ line, iconOf? (lead.toList ++ line) = iconOf? line)
    (isLast : Bool) (node : Node) :
    isKept (lead ++ connector isLast ++ node.caption) = true ↔ node.icon ≠ .property := by
  rw [isKept, String.append_assoc, String.toList_append, hLead, iconOf?_connector, decide_eq_true_iff,
    ne_eq, Option.some.injEq]
  exact not_congr ⟨fun hGlyph => @Icon.glyph_injective _ .property hGlyph, fun hIcon => hIcon ▸ rfl⟩

/-- The lines of the nodes without properties are those that are kept. Every node that is kept has as many
siblings behind it as before. -/
theorem siblingLines_withoutPropertiesAll {nodes : List Node} (h : PropertiesFirst nodes) {lead : String}
    (hLead : ∀ line, iconOf? (lead.toList ++ line) = iconOf? line) :
    siblingLines lead (withoutPropertiesAll nodes) = (siblingLines lead nodes).filter isKept := by
  induction h generalizing lead with
  | nil => rw [withoutPropertiesAll, siblingLines, List.filter_nil]
  | @property node rest hIcon hLeaf _ ih =>
      have hDropped : ¬isKept (lead ++ connector rest.isEmpty ++ node.caption) = true :=
        fun hKept => (isKept_iff hLead _ node).mp hKept hIcon
      rw [withoutPropertiesAll_cons_property hIcon, ih hLead, siblingLines_cons, hLeaf, siblingLines,
        List.singleton_append, List.filter_cons_of_neg hDropped]
  | @other node rest hIcon hLater _ _ ihBelow ihRest =>
      have hKept := (isKept_iff hLead rest.isEmpty node).mpr hIcon
      have hSameLast : (withoutPropertiesAll rest).isEmpty = rest.isEmpty := by
        rw [withoutPropertiesAll_eq_map hLater, List.isEmpty_map]
      have hColumns : ∀ line,
          iconOf? ((lead ++ column rest.isEmpty).toList ++ line) = iconOf? line := by
        intro line
        rw [String.toList_append, List.append_assoc, hLead, iconOf?_column]
      have hBelow : siblingLines (lead ++ column rest.isEmpty) node.withoutProperties.children =
          (siblingLines (lead ++ column rest.isEmpty) node.children).filter isKept := by
        rw [Node.withoutProperties_eq]
        exact ihBelow hColumns
      rw [withoutPropertiesAll_cons_other hIcon, siblingLines_cons, siblingLines_cons, hSameLast,
        caption_withoutProperties, hBelow, ihRest hLead, List.cons_append, List.cons_append,
        List.filter_cons_of_pos hKept, List.filter_append]

theorem lines_withoutProperties {root : Node} (h : PropertiesFirst root.children) :
    root.withoutProperties.lines = root.lines.filter isKept := by
  have hKept : isKept root.caption = true := by
    rw [isKept, iconOf?_root]
    rfl
  rw [Node.lines, Node.lines, List.filter_cons_of_pos hKept, caption_withoutProperties,
    Node.withoutProperties_eq]
  congr 1
  exact siblingLines_withoutPropertiesAll h fun line => rfl

theorem propertyNodes_false (properties : List Property) : propertyNodes false properties = [] := rfl

/-- The nodes of properties fall away. -/
theorem withoutPropertiesAll_propertyNodes_append (properties : List Property) (nodes : List Node) :
    withoutPropertiesAll (propertyNodes true properties ++ nodes) = withoutPropertiesAll nodes := by
  rw [propertyNodes, if_pos rfl]
  induction properties with
  | nil => rfl
  | cons property rest ih =>
      rw [List.map_cons, List.cons_append, withoutPropertiesAll_cons_property rfl, ih]

theorem withoutPropertiesAll_propertyNodes (properties : List Property) :
    withoutPropertiesAll (propertyNodes true properties) = [] := by
  rw [← List.append_nil (propertyNodes true properties),
    withoutPropertiesAll_propertyNodes_append, withoutPropertiesAll]

namespace PropertiesFirst

/-- Properties may stand before nodes that are not those of properties. -/
theorem propertyNodes_append (properties : List Property) {nodes : List Node}
    (hNodes : PropertiesFirst nodes) :
    PropertiesFirst (propertyNodes true properties ++ nodes) := by
  rw [propertyNodes, if_pos rfl]
  induction properties with
  | nil => exact hNodes
  | cons property rest ih => exact .property rfl rfl ih

theorem propertyNodes (properties : List Property) :
    PropertiesFirst (propertyNodes true properties) := by
  rw [← List.append_nil (Display.propertyNodes true properties)]
  exact propertyNodes_append properties .nil

/-- Nodes that are not those of properties may stand in any order. -/
theorem of_forall {nodes : List Node} (hIcon : ∀ node ∈ nodes, node.icon ≠ .property)
    (hBelow : ∀ node ∈ nodes, PropertiesFirst node.children) : PropertiesFirst nodes := by
  induction nodes with
  | nil => exact .nil
  | cons node rest ih =>
      obtain ⟨hNode, hLater⟩ := List.forall_mem_cons.mp hIcon
      obtain ⟨hChildren, hOthers⟩ := List.forall_mem_cons.mp hBelow
      exact .other hNode hLater hChildren (ih hLater hOthers)

end PropertiesFirst

theorem controlIcon_ne_property (controlType : String) : controlIcon controlType ≠ .property := by
  intro hIcon
  have hControl := isOfControl_controlIcon controlType
  rw [hIcon] at hControl
  cases hControl

theorem icon_controlNode_ne_property (showProperties : Bool) (control : PageControl) :
    (controlNode showProperties control).icon ≠ .property := by
  rw [controlNode_eq]
  exact controlIcon_ne_property control.controlType

theorem controlNodes_eq_map (showProperties : Bool) (controls : List PageControl) :
    controlNodes showProperties controls = controls.map (controlNode showProperties) := by
  induction controls with
  | nil => rw [controlNodes, List.map_nil]
  | cons control rest ih => rw [controlNodes, List.map_cons, ih]

theorem icon_ne_property_of_mem_controlNodes {showProperties : Bool} {controls : List PageControl} :
    ∀ node ∈ controlNodes showProperties controls, node.icon ≠ .property := by
  rw [controlNodes_eq_map]
  exact List.forall_mem_map.mpr fun control _ => icon_controlNode_ne_property showProperties control

/-- The nodes of controls are the same without the properties at every level. -/
theorem controlNodes_false (controls : List PageControl) :
    controlNodes false controls = withoutPropertiesAll (controlNodes true controls) := by
  induction controls using PageControl.inductionAll with
  | nil => rw [controlNodes, controlNodes, withoutPropertiesAll]
  | cons control rest ihNested ihRest =>
      have hNode : controlNode false control = (controlNode true control).withoutProperties := by
        rw [controlNode_eq, controlNode_eq, Node.withoutProperties_eq, propertyNodes_false,
          List.nil_append, withoutPropertiesAll_propertyNodes_append, ihNested]
      rw [controlNodes, controlNodes,
        withoutPropertiesAll_cons_other (icon_controlNode_ne_property true control), hNode, ihRest]

theorem PropertiesFirst.controlNodes (controls : List PageControl) :
    PropertiesFirst (controlNodes true controls) := by
  induction controls using PageControl.inductionAll with
  | nil =>
      rw [Display.controlNodes]
      exact .nil
  | cons control rest ihNested ihRest =>
      have hBelow : PropertiesFirst (controlNode true control).children := by
        rw [controlNode_eq]
        exact propertyNodes_append control.properties ihNested
      rw [Display.controlNodes]
      exact .other (icon_controlNode_ne_property true control) icon_ne_property_of_mem_controlNodes
        hBelow ihRest

/-- Nodes that are not those of properties, each of which has its own form without them. -/
theorem withoutPropertiesAll_map {α : Type} {shown hidden : α → Node}
    (hIcon : ∀ item, (shown item).icon ≠ .property)
    (hHidden : ∀ item, hidden item = (shown item).withoutProperties) (items : List α) :
    withoutPropertiesAll (items.map shown) = items.map hidden := by
  rw [withoutPropertiesAll_eq_map (List.forall_mem_map.mpr fun item _ => hIcon item), List.map_map]
  exact List.map_congr_left fun item _ => (hHidden item).symm

theorem fieldNode_false (field : TableField) :
    fieldNode false field = (fieldNode true field).withoutProperties := by
  rw [fieldNode, fieldNode, Node.withoutProperties_eq, withoutPropertiesAll_propertyNodes]
  rfl

theorem keyNode_false (key : TableKey) :
    keyNode false key = (keyNode true key).withoutProperties := by
  rw [keyNode, keyNode, Node.withoutProperties_eq, withoutPropertiesAll_propertyNodes]
  rfl

theorem withoutProperties_sectionNode (name : String) (children : List Node) :
    (sectionNode name children).withoutProperties =
      sectionNode name (withoutPropertiesAll children) := by
  rw [Node.withoutProperties_eq]
  rfl

theorem withoutPropertiesAll_sections (first second : String) (children others : List Node) :
    withoutPropertiesAll [sectionNode first children, sectionNode second others] =
      [sectionNode first (withoutPropertiesAll children),
        sectionNode second (withoutPropertiesAll others)] := by
  have hIcon (name : String) (nodes : List Node) : (sectionNode name nodes).icon ≠ .property :=
    fun h => nomatch h
  rw [withoutPropertiesAll_cons_other (hIcon first children),
    withoutPropertiesAll_cons_other (hIcon second others), withoutPropertiesAll,
    withoutProperties_sectionNode, withoutProperties_sectionNode]

/-- The outline without properties has all other nodes. -/
theorem outline_false (symbol : ObjectSymbol) :
    outline false symbol = (outline true symbol).withoutProperties := by
  cases symbol with
  | table table =>
      have hFields := withoutPropertiesAll_map (fun field => controlIcon_ne_property field.controlType)
        fieldNode_false table.fields
      have hKeys := withoutPropertiesAll_map (fun key => controlIcon_ne_property key.controlType)
        keyNode_false table.keys
      rw [outline, outline, Node.withoutProperties_eq, withoutPropertiesAll_propertyNodes_append,
        withoutPropertiesAll_sections, hFields, hKeys]
      rfl
  | page page =>
      rw [outline, outline, Node.withoutProperties_eq, withoutPropertiesAll_propertyNodes_append,
        withoutPropertiesAll_sections, ← controlNodes_false, ← controlNodes_false]
      rfl
  | unsupported header =>
      rw [outline, outline]
      split
      · rw [Node.withoutProperties_eq, withoutPropertiesAll]
      · rw [Node.withoutProperties_eq, withoutPropertiesAll_propertyNodes]
        rfl

/-- In every outline, properties are leaves in front of all other nodes beside them. -/
theorem PropertiesFirst.outline (symbol : ObjectSymbol) :
    PropertiesFirst (outline true symbol).children := by
  have hSections {first second : String} {children others : List Node}
      (hChildren : PropertiesFirst children) (hOthers : PropertiesFirst others) :
      PropertiesFirst [sectionNode first children, sectionNode second others] := by
    refine of_forall ?_ ?_
    · simp [sectionNode]
    · simp [sectionNode, hChildren, hOthers]
  cases symbol with
  | table table =>
      have hFields : PropertiesFirst (table.fields.map (fieldNode true)) :=
        of_forall (List.forall_mem_map.mpr fun field _ => controlIcon_ne_property field.controlType)
          (List.forall_mem_map.mpr fun field _ => .propertyNodes field.properties)
      have hKeys : PropertiesFirst (table.keys.map (keyNode true)) :=
        of_forall (List.forall_mem_map.mpr fun key _ => controlIcon_ne_property key.controlType)
          (List.forall_mem_map.mpr fun key _ => .propertyNodes key.properties)
      exact propertyNodes_append table.header.properties (hSections hFields hKeys)
  | page page =>
      exact propertyNodes_append page.header.properties
        (hSections (.controlNodes page.controls) (.controlNodes page.actions))
  | unsupported header =>
      rw [Display.outline]
      split
      · exact .nil
      · exact .propertyNodes header.properties

/-- Lines put together with line feeds between them, and an empty one at the end. -/
theorem intercalate_lines_append (lines : List String) :
    ['\n'].intercalate (lines.map String.toList ++ [[]]) =
      (String.join (lines.map (· ++ "\n"))).toList := by
  have hFeed : "\n".toList = ['\n'] := rfl
  induction lines with
  | nil => rfl
  | cons line rest ih =>
      obtain ⟨next, later, hRest⟩ : ∃ next later, rest.map String.toList ++ [[]] = next :: later :=
        List.exists_cons_of_ne_nil (by simp)
      rw [List.map_cons, List.cons_append, hRest, List.intercalate_cons_cons, ← hRest, ih,
        List.map_cons, String.join_cons, String.toList_append, String.toList_append, hFeed]

/-- Properties that are not shown only take their own lines away. -/
theorem renderOutline_false (symbol : ObjectSymbol) (h : (outline true symbol).OnLines) :
    (renderOutline false symbol).toList =
      withoutPropertyLines (renderOutline true symbol).toList := by
  have hKept : (outline false symbol).lines = (outline true symbol).lines.filter isKept := by
    rw [outline_false]
    exact lines_withoutProperties (.outline symbol)
  have hLast : [([] : List Char)].filter (fun line => decide (iconOf? line ≠ some '·')) = [[]] := rfl
  rw [withoutPropertyLines, renderOutline, renderOutline, Node.lines_render h, List.filter_append, hLast,
    List.filter_map]
  change _ = ['\n'].intercalate (((outline true symbol).lines.filter isKept).map String.toList ++ [[]])
  rw [← hKept, intercalate_lines_append, Node.render]

/-- A page with properties at three levels. One of its controls has a name that looks like the line of a
property. -/
def groupedPage : ObjectSymbol :=
  .page
    { header := { id := 1, name := "P", objectType := "page", properties := [⟨"PageType", "Card"⟩] }
      controls :=
        [{ controlType := "group"
           name := "General"
           caption := "General"
           properties := [⟨"Visible", "A"⟩, ⟨"Editable", "B"⟩]
           controls :=
             [{ controlType := "field"
                name := "C"
                caption := "│ └─ · C"
                properties := [⟨"Enabled", "D"⟩] }] }] }

/-- The outline of the page without properties has the five lines that are not those of properties. -/
theorem renderOutline_groupedPage :
    (outline true groupedPage).OnLines ∧
      renderOutline true groupedPage =
        "▤ page 1 P\n├─ · PageType = Card\n├─ ☰ controls\n│ └─ ▦ group General\n" ++
          "│   ├─ · Visible = A\n│   ├─ · Editable = B\n│   └─ • field │ └─ · C\n" ++
          "│     └─ · Enabled = D\n└─ ☰ actions\n" ∧
      (renderOutline false groupedPage).toList =
        withoutPropertyLines (renderOutline true groupedPage).toList ∧
      renderOutline false groupedPage =
        "▤ page 1 P\n├─ ☰ controls\n│ └─ ▦ group General\n│   └─ • field │ └─ · C\n" ++
          "└─ ☰ actions\n" := by
  have hLines : (outline true groupedPage).OnLines := by decide +kernel
  refine ⟨hLines, by decide +kernel, renderOutline_false groupedPage hLines, by decide +kernel⟩

end ObjectOutline.Display
