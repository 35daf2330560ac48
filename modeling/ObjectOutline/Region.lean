import ObjectOutline.Property

/-! Regions: a source seen as nested brace blocks, each with the header line in front of it and the
property lines inside it. -/
namespace ObjectOutline

/-- One brace block and everything nested inside it. The object type is set only by numbered
headers; `source` is the header line as written and `offset` the byte offset of the opening
brace. -/
structure Region where
  keyword : String := ""
  id : Option UInt32 := none
  name : Option String := none
  objectType : String := ""
  target : Option String := none
  source : String := ""
  offset : Nat := 0
  properties : List Property := []
  children : List Region := []
  deriving BEq, Repr, Inhabited

namespace Region

/-- The region has no nested regions. -/
def isLeaf (region : Region) : Bool :=
  region.children.isEmpty

/-- The name, empty when there is none. -/
def nameText (region : Region) : String :=
  region.name.getD ""

mutual

/-- The number of regions in this tree, the region itself included. -/
def count : Region → Nat
  | ⟨_, _, _, _, _, _, _, _, children⟩ => 1 + countAll children

/-- The number of regions in a list of trees. -/
def countAll : List Region → Nat
  | [] => 0
  | region :: rest => count region + countAll rest

end

end Region
end ObjectOutline
