/-! Trees drawn with box characters, one line per node. A node stands two columns to the right of
its parent. The line of a node shows a connector, an icon and a label; a vertical bar runs down from
every node that has a later sibling. -/
namespace ObjectOutline.Display

/-- The symbols that nodes are marked with. -/
inductive Icon where
  | table
  | page
  | otherObject
  | unparsed
  | section
  | field
  | part
  | group
  | area
  | repeater
  | action
  | key
  | otherControl
  | property
  deriving DecidableEq, Repr

/-- How an icon is drawn. -/
def Icon.glyph : Icon → Char
  | .table => '▣'
  | .page => '▤'
  | .otherObject => '◇'
  | .unparsed => '∅'
  | .section => '☰'
  | .field => '•'
  | .part => '◫'
  | .group => '▦'
  | .area => '▭'
  | .repeater => '⟳'
  | .action => '▶'
  | .key => '⚷'
  | .otherControl => '○'
  | .property => '·'

/-- A node and the nodes below it. -/
structure Node where
  icon : Icon
  label : String
  children : List Node := []
  deriving Repr

/-- The number of characters of a label that are shown. -/
def maxLabel : Nat := 48

/-- A label as it is shown. An ellipsis stands for what is left out. -/
def shownLabel (label : String) : String :=
  let cs := label.toList
  if maxLabel < cs.length then String.ofList (cs.take maxLabel ++ ['…']) else label

/-- The icon and the label of a node. -/
def Node.caption (node : Node) : String :=
  node.icon.glyph.toString ++ " " ++ shownLabel node.label

/-- The connector in front of a node. -/
def connector (isLast : Bool) : String :=
  if isLast then "└─ " else "├─ "

/-- What stands below a connector. -/
def column (isLast : Bool) : String :=
  if isLast then "  " else "│ "

mutual

/-- The lines of a node below the root: its own line, then those of the nodes below it. `lead` is
what the columns of the nodes above it show. -/
def nodeLines (lead : String) (isLast : Bool) : Node → List String
  | ⟨icon, label, children⟩ =>
    (lead ++ connector isLast ++ Node.caption ⟨icon, label, []⟩) ::
      siblingLines (lead ++ column isLast) children

/-- The lines of the nodes beside each other. -/
def siblingLines (lead : String) : List Node → List String
  | [] => []
  | node :: rest => nodeLines lead rest.isEmpty node ++ siblingLines lead rest

end

/-- The lines of a whole tree. The root has neither connector nor column. -/
def Node.lines (root : Node) : List String :=
  root.caption :: siblingLines "" root.children

/-- A tree as text. Every line ends in a line break. -/
def Node.render (root : Node) : String :=
  String.join (root.lines.map (· ++ "\n"))

end ObjectOutline.Display
