import ObjectOutline.Brace.Block
import ObjectOutline.Diagnostic
import ObjectOutline.Header
import ObjectOutline.Region

/-! Matching: from the text of a source to its regions. The text before a block ends in its header
line, the body is read for properties and searched for nested regions, and the text after the block
is searched for siblings. Every finding carries the byte offset of the opening brace that it is
about. -/
namespace ObjectOutline

/-- The regions of a text and what was noticed on the way, both in the order of the text. -/
structure Forest where
  regions : List Region
  findings : List Finding
  deriving BEq, Repr, Inhabited

namespace Forest

/-- The forest of a text without blocks. -/
def empty : Forest := ⟨[], []⟩

/-- One forest after another. -/
def append (first second : Forest) : Forest :=
  ⟨first.regions ++ second.regions, first.findings ++ second.findings⟩

instance : Append Forest := ⟨append⟩

end Forest

namespace Region

/-- What a header line that is not one of the known forms gives rise to. -/
def headerIssue? (header : Header) (line : List Char) : Option Issue :=
  match header.shape with
  | .unrecognized =>
    some (if line.isEmpty then .headerMissing else .headerUnrecognized (String.ofList line))
  | .invalidId => some (.idOutOfRange (String.ofList line))
  | .numbered | .parameterized | .bare => none

/-- The part of a block that is read for properties. It ends at the first nested block, except that
a closed `field` is read to its end. An unclosed block without nested blocks has no such part. -/
def propertyText (keyword : String) (block : Block) : List Char :=
  match Block.find? block.body with
  | some nested =>
    if keyword == "field" && block.isClosed then block.body else nested.pre
  | none => if block.isClosed then block.body else []

/-- Nested regions are cut off: there are some, and they would lie at or below the limit. -/
def reachesLimit (limit depth : Nat) (block : Block) : Bool :=
  (Block.find? block.body).isSome && limit ≤ depth + 1

/-- The region of a block, given the forest of its body. An unclosed block below the top level that
holds no region is left out: the source was cut off inside it. Its findings stay. -/
def ofBlock (limit depth base : Nat) (block : Block) (inner : Forest) : Forest :=
  let line := Text.lastFilledLine block.pre
  let header := Header.classify line
  let offset := base + block.openOffset
  let issues :=
    (headerIssue? header line).toList ++
    (if block.isClosed then [] else [.neverClosed header.keyword]) ++
    (if reachesLimit limit depth block then [.nestedTooDeep header.keyword limit] else [])
  let region : Region :=
    { keyword := header.keyword
      id := header.id
      name := header.name
      objectType := header.objectType
      target := header.target
      source := String.ofList line
      offset := offset
      properties := Property.ofLines (propertyText header.keyword block)
      children := inner.regions }
  let isCutOff := !block.isClosed && inner.regions.isEmpty && 0 < depth
  ⟨if isCutOff then [] else [region], issues.map (⟨offset, ·⟩) ++ inner.findings⟩

/-- The regions of a text that lies `depth` levels deep and starts at byte `base` of the source. -/
def matchFrom (limit depth base : Nat) (text : List Char) : Forest :=
  match _ : Block.find? text with
  | none => .empty
  | some block =>
    let inner :=
      if reachesLimit limit depth block then .empty
      else matchFrom limit (depth + 1) (base + block.bodyOffset) block.body
    let first := ofBlock limit depth base block inner
    match _ : block.post with
    | none => first
    | some post =>
      first ++ matchFrom limit depth
        (base + block.bodyOffset + Text.byteLength block.body + 1) post
termination_by text.length
decreasing_by
  · exact Block.body_length_lt ‹Block.find? text = some block›
  · exact Block.post_length_lt ‹Block.find? text = some block› ‹block.post = some post›

/-- The regions of a source. Nesting is followed down to `maxDepth` levels, at least one. -/
def matchSource (maxDepth : Nat) (source : List Char) : Forest :=
  matchFrom (max 1 maxDepth) 0 0 source

/-- The nesting that is followed when nothing else is asked for. -/
def defaultMaxDepth : Nat := 64

end Region
end ObjectOutline
