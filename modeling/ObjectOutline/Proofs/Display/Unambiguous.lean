import ObjectOutline.Display.Outline
import ObjectOutline.Proofs.Display.Entries
import ObjectOutline.Proofs.Text.Lines

/-! A drawn tree is read back. The characters of a line up to its icon are those of columns and a
connector, whatever the label is made of, so each line says how deep its node stands and whether siblings
follow. From the lines one has the tree again, with its icons and with its labels shortened. -/
namespace ObjectOutline.Display

mutual

/-- A tree with its labels shortened. -/
def Node.shown : Node → Node
  | ⟨icon, label, children⟩ => ⟨icon, shortened label, shownAll children⟩

/-- Trees beside each other with their labels shortened. -/
def shownAll : List Node → List Node
  | [] => []
  | node :: rest => node.shown :: shownAll rest

end

/-- No label in the tree runs over a line. -/
def Node.OnLines (root : Node) : Prop :=
  ∀ entry ∈ root.entries, '\n' ∉ entry.node.label.toList

instance (root : Node) : Decidable root.OnLines :=
  inferInstanceAs (Decidable (∀ entry ∈ root.entries, '\n' ∉ entry.node.label.toList))

theorem Icon.glyph_injective {first second : Icon} (h : first.glyph = second.glyph) :
    first = second := by
  cases first <;> cases second <;> first | rfl | exact absurd h (by decide)

theorem Icon.glyph_ne_lineFeed (icon : Icon) : icon.glyph ≠ '\n' := by
  cases icon <;> decide

theorem toList_caption (node : Node) :
    node.caption.toList = node.icon.glyph :: ' ' :: (shownLabel node.label).toList := by
  simp [Node.caption, Char.toString]

theorem toList_connector (isLast : Bool) :
    (connector isLast).toList = [if isLast then '└' else '├', '─', ' '] := by
  cases isLast <;> simp [connector]

section

variable {lead : String}

end

theorem noLineFeed_shownLabel {label : String} (h : '\n' ∉ label.toList) :
    '\n' ∉ (shownLabel label).toList := by
  rw [shownLabel]
  split
  · rw [String.toList_ofList, List.mem_append, not_or]
    exact ⟨fun hTaken => h (List.mem_of_mem_take hTaken), by decide⟩
  · exact h

/-- Lines without line feeds, put together to a text, are the lines of that text. -/
theorem lines_join {lines : List String} (h : ∀ line ∈ lines, '\n' ∉ line.toList) :
    Text.lines (String.join (lines.map (· ++ "\n"))).toList = lines.map String.toList ++ [[]] := by
  induction lines with
  | nil => rfl
  | cons line rest ih =>
      obtain ⟨hLine, hRest⟩ := List.forall_mem_cons.mp h
      have hFeed : "\n".toList = ['\n'] := rfl
      rw [List.map_cons, String.join_cons, String.toList_append, String.toList_append, hFeed,
        List.append_assoc, List.singleton_append, Text.lines_append, Text.lines_of_not_mem hLine,
        ih hRest]
      rfl

namespace Node

variable {root : Node}

theorem noLineFeed_drawn {entry : Entry} (h : '\n' ∉ entry.node.label.toList) :
    '\n' ∉ (root.drawn entry).toList := by
  have hCaption : '\n' ∉ entry.node.caption.toList := by
    rw [toList_caption, List.mem_cons, List.mem_cons, not_or, not_or]
    exact ⟨entry.node.icon.glyph_ne_lineFeed.symm, by decide, noLineFeed_shownLabel h⟩
  have hColumns (above : List (List Nat)) :
      '\n' ∉ (String.join (above.map fun address =>
        if hasLater root.children address then "│ " else "  ")).toList := by
    rw [String.toList_join, List.mem_flatMap]
    rintro ⟨shown, hShown, hMem⟩
    obtain ⟨address, -, rfl⟩ := List.mem_map.mp hShown
    split at hMem <;> exact absurd hMem (by decide)
  rw [drawn, drawnBelow, ← caption_eq]
  split
  · exact hCaption
  · rw [String.toList_append, String.toList_append, List.mem_append, List.mem_append,
      not_or, not_or]
    refine ⟨⟨hColumns _, ?_⟩, hCaption⟩
    split <;> decide

/-- The lines of a drawn tree are the lines of its text, and nothing stands behind the last one. -/
theorem lines_render (h : root.OnLines) :
    Text.lines root.render.toList = root.lines.map String.toList ++ [[]] := by
  have hLines : ∀ line ∈ root.lines, '\n' ∉ line.toList := by
    intro line hLine
    rw [lines_eq] at hLine
    obtain ⟨entry, hEntry, rfl⟩ := List.mem_map.mp hLine
    exact noLineFeed_drawn (h entry hEntry)
  rw [render]
  exact lines_join hLines

end Node

end ObjectOutline.Display
