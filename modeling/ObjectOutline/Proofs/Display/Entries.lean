import ObjectOutline.Display.Tree

/-! Which line a drawn tree has for which node. The nodes of a tree are listed in preorder with their
addresses, and from the address of a node alone it is said what its line shows in front of the icon: one
column for every node above it, the root apart, and a connector, each according to whether a sibling
follows. Behind the icon stand the first characters of the label. -/
namespace ObjectOutline.Display

/-- A node and its address: for each level below the root, the number of siblings in front. -/
structure Entry where
  address : List Nat
  node : Node

/-- The same entry one level further down, below the node with `index` siblings in front. -/
def Entry.below (index : Nat) (entry : Entry) : Entry :=
  ⟨index :: entry.address, entry.node⟩

mutual

/-- A node with `index` siblings in front, and then the nodes below it. -/
def entriesAt (index : Nat) : Node → List Entry
  | ⟨icon, label, children⟩ =>
      ⟨[index], ⟨icon, label, children⟩⟩ :: (entriesFrom 0 children).map (Entry.below index)

/-- The nodes of trees beside each other. The first tree has `index` siblings in front. -/
def entriesFrom (index : Nat) : List Node → List Entry
  | [] => []
  | node :: rest => entriesAt index node ++ entriesFrom (index + 1) rest

end

/-- All nodes of a tree in preorder. The address of the root is empty. -/
def Node.entries (root : Node) : List Entry :=
  ⟨[], root⟩ :: entriesFrom 0 root.children

/-- In trees beside each other, a sibling follows the node at an address. -/
def hasLater (siblings : List Node) : List Nat → Bool
  | [] => false
  | [index] => index + 1 < siblings.length
  | index :: next :: address =>
      (siblings[index]?).any fun node => hasLater node.children (next :: address)

/-- The addresses of the nodes above the node at an address, from the top down, without the root. -/
def above : List Nat → List (List Nat)
  | [] => []
  | [_] => []
  | index :: next :: address => [index] :: (above (next :: address)).map (index :: ·)

/-- The first 48 characters of a label, and an ellipsis when there are more. -/
def shortened (label : String) : String :=
  String.ofList (label.toList.take 48 ++ if 48 < label.length then ['…'] else [])

/-- The icon of a node and what a reader sees of its label. -/
def Node.text (node : Node) : String :=
  node.icon.glyph.toString ++ " " ++ shortened node.label

/-- The line of a node that stands in trees beside each other. -/
def drawnBelow (siblings : List Node) (entry : Entry) : String :=
  String.join
      ((above entry.address).map fun address => if hasLater siblings address then "│ " else "  ") ++
    (if hasLater siblings entry.address then "├─ " else "└─ ") ++ entry.node.text

/-- The line of a node of a tree. -/
def Node.drawn (root : Node) (entry : Entry) : String :=
  if entry.address = [] then entry.node.text else drawnBelow root.children entry

/-- A statement holds of every list of nodes when it holds of none and passes from the nodes below a node,
and from those behind it, to the list that starts with it. -/
theorem inductionAll {motive : List Node → Prop} (nil : motive [])
    (cons : ∀ node rest, motive node.children → motive rest → motive (node :: rest)) :
    ∀ nodes, motive nodes
  | [] => nil
  | ⟨icon, label, children⟩ :: rest =>
      cons ⟨icon, label, children⟩ rest (inductionAll nil cons children) (inductionAll nil cons rest)

theorem shownLabel_eq (label : String) : shownLabel label = shortened label := by
  have hLength : label.length = label.toList.length := String.length_toList.symm
  rw [shownLabel, shortened, maxLabel, hLength]
  split
  · rfl
  · rw [List.append_nil, List.take_of_length_le (by omega), String.ofList_toList]

theorem Node.caption_eq (node : Node) : node.caption = node.text := by
  rw [caption, text, shownLabel_eq]

theorem entriesFrom_cons (index : Nat) (node : Node) (rest : List Node) :
    entriesFrom index (node :: rest) =
      ⟨[index], node⟩ :: (entriesFrom 0 node.children).map (Entry.below index) ++
        entriesFrom (index + 1) rest := by
  cases node
  rw [entriesFrom, entriesAt]

theorem siblingLines_cons (lead : String) (node : Node) (rest : List Node) :
    siblingLines lead (node :: rest) =
      (lead ++ connector rest.isEmpty ++ node.caption) ::
        siblingLines (lead ++ column rest.isEmpty) node.children ++ siblingLines lead rest := by
  cases node
  rw [siblingLines, nodeLines]
  rfl

theorem address_ne_nil_of_mem {index : Nat} {nodes : List Node} {entry : Entry}
    (h : entry ∈ entriesFrom index nodes) : entry.address ≠ [] := by
  induction nodes generalizing index with
  | nil => simp [entriesFrom] at h
  | cons node rest ih =>
      rw [entriesFrom_cons, List.mem_append, List.mem_cons, List.mem_map] at h
      rcases h with (rfl | ⟨inner, -, rfl⟩) | hRest
      · exact List.cons_ne_nil _ _
      · exact List.cons_ne_nil _ _
      · exact ih hRest

theorem ne_nil_of_mem_above {address inner : List Nat} (h : inner ∈ above address) : inner ≠ [] := by
  match address with
  | [] => simp [above] at h
  | [_] => simp [above] at h
  | index :: next :: address =>
      rw [above, List.mem_cons, List.mem_map] at h
      rcases h with rfl | ⟨deeper, -, rfl⟩
      · exact List.cons_ne_nil _ _
      · exact List.cons_ne_nil _ _

section

variable {siblings : List Node} {node : Node} {index : Nat}

/-- What follows a node below another one is said by the nodes below that one. -/
theorem hasLater_cons (h : siblings[index]? = some node) {address : List Nat}
    (hAddress : address ≠ []) :
    hasLater siblings (index :: address) = hasLater node.children address := by
  obtain ⟨next, rest, rfl⟩ := List.exists_cons_of_ne_nil hAddress
  rw [hasLater, h]
  rfl

theorem hasLater_singleton {before rest : List Node} :
    hasLater (before ++ node :: rest) [before.length] = !rest.isEmpty := by
  cases rest <;> simp [hasLater]

/-- Below a node, the line starts with the column of that node. -/
theorem drawnBelow_below {before rest : List Node} {entry : Entry} (hEntry : entry.address ≠ []) :
    drawnBelow (before ++ node :: rest) (entry.below before.length) =
      column rest.isEmpty ++ drawnBelow node.children entry := by
  have hNode : (before ++ node :: rest)[before.length]? = some node := by simp
  have hHere : (if hasLater (before ++ node :: rest) [before.length] then "│ " else "  ") =
      column rest.isEmpty := by
    rw [hasLater_singleton]
    cases rest <;> rfl
  obtain ⟨address, entryNode⟩ := entry
  obtain ⟨next, deeper, rfl⟩ := List.exists_cons_of_ne_nil hEntry
  have hAbove : (above (next :: deeper)).map ((fun address =>
        if hasLater (before ++ node :: rest) address then "│ " else "  ") ∘ (before.length :: ·)) =
      (above (next :: deeper)).map fun address =>
        if hasLater node.children address then "│ " else "  " := by
    apply List.map_congr_left
    intro inner hInner
    rw [Function.comp_apply, hasLater_cons hNode (ne_nil_of_mem_above hInner)]
  rw [drawnBelow, drawnBelow, Entry.below, above, List.map_cons, List.map_map, String.join_cons,
    hHere, hAbove, hasLater_cons hNode (List.cons_ne_nil _ _), String.append_assoc,
    String.append_assoc, String.append_assoc]

end

/-- The lines of trees beside each other: one for each node, in preorder. -/
theorem siblingLines_eq (lead : String) (before nodes : List Node) :
    siblingLines lead nodes =
      (entriesFrom before.length nodes).map fun entry =>
        lead ++ drawnBelow (before ++ nodes) entry := by
  induction nodes using inductionAll generalizing lead before with
  | nil => rw [siblingLines, entriesFrom, List.map_nil]
  | cons node rest ihBelow ihRest =>
      have hOwn : connector rest.isEmpty ++ node.caption =
          drawnBelow (before ++ node :: rest) ⟨[before.length], node⟩ := by
        rw [drawnBelow, hasLater_singleton, ← node.caption_eq]
        cases rest <;> rfl
      have hBelow : siblingLines (lead ++ column rest.isEmpty) node.children =
          ((entriesFrom 0 node.children).map (Entry.below before.length)).map fun entry =>
            lead ++ drawnBelow (before ++ node :: rest) entry := by
        rw [ihBelow _ [], List.map_map]
        apply List.map_congr_left
        intro entry hEntry
        rw [Function.comp_apply, drawnBelow_below (address_ne_nil_of_mem hEntry), List.nil_append,
          String.append_assoc]
      have hRest := ihRest lead (before ++ [node])
      rw [List.length_append, List.length_singleton, List.append_assoc,
        List.singleton_append] at hRest
      rw [siblingLines_cons, entriesFrom_cons, List.map_append, List.map_cons, ← hBelow, ← hOwn,
        hRest, String.append_assoc]

/-- A drawn tree has one line for each node, in preorder, each as it is said by its address. -/
theorem Node.lines_eq (root : Node) : root.lines = root.entries.map root.drawn := by
  have hBelow : siblingLines "" root.children = (entriesFrom 0 root.children).map root.drawn := by
    rw [siblingLines_eq "" [] root.children]
    apply List.map_congr_left
    intro entry hEntry
    rw [drawn, if_neg (address_ne_nil_of_mem hEntry), String.empty_append, List.nil_append]
  rw [lines, entries, List.map_cons, hBelow, drawn, if_pos rfl, caption_eq]

end ObjectOutline.Display
