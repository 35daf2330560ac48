import ObjectOutline.Proofs.Region.Siblings
import ObjectOutline.Proofs.Text.LastFilled
import ObjectOutline.Proofs.Written.HeaderLine

/-! Sources as data: blocks beside and inside each other, with whatever fillers and indentation stand
around them. Matching the text of such a source gives back the regions that it was written from, each
at the byte offset of its opening brace, and nothing is found fault with. -/
namespace ObjectOutline

namespace Region

/-- A closed block with a known header, above the limit, gives its region and adds no finding. -/
theorem ofBlock_of_recognized {limit depth : Nat} {block : Block} (base : Nat) (inner : Forest)
    (hClosed : block.isClosed = true)
    (hHeader : headerIssue? (Header.classify (Text.lastFilledLine block.pre))
      (Text.lastFilledLine block.pre) = none)
    (hLimit : reachesLimit limit depth block = false) :
    ofBlock limit depth base block inner = ⟨[ofBody base block inner], inner.findings⟩ := by
  simp [ofBlock, ofBody, hClosed, hHeader, hLimit]

/-- Above the limit, the body is matched by itself. -/
theorem matchBody_of_not_reachesLimit {limit depth : Nat} {block : Block} (base : Nat)
    (hLimit : reachesLimit limit depth block = false) :
    matchBody limit depth base block =
      matchFrom limit (depth + 1) (base + block.bodyOffset) block.body := by
  rw [← matchBody_eq, hLimit]
  rfl

end Region

namespace Written

/-- What stands around one block and directly inside it. -/
structure Frame where
  fillers : List Filler
  indent : Indent
  header : HeaderLine
  openIndent : Indent
  properties : List PropertyLine
  closeIndent : Indent

namespace Frame

variable (frame : Frame)

/-- The text in front of the opening brace. -/
def before : List Char :=
  fillerLines frame.fillers ++
    (frame.indent.chars ++ frame.header.text ++ '\n' :: frame.openIndent.chars)

/-- The text between the opening brace and the nested blocks. -/
def inside : List Char :=
  '\n' :: propertyLines frame.properties

/-- The text between the braces. -/
def body (children : List Char) : List Char :=
  frame.inside ++ children ++ frame.closeIndent.chars

/-- The region of the block, at the offset of its opening brace. -/
def region (offset : Nat) (children : List Region) : Region :=
  { keyword := frame.header.header.keyword
    id := frame.header.header.id
    name := frame.header.header.name
    objectType := frame.header.header.objectType
    target := frame.header.header.target
    source := String.ofList frame.header.text
    offset := offset
    properties := frame.properties.map PropertyLine.property
    children := children }

theorem passes_before : Mode.code.Passes frame.before .code := by
  have hHeader := Text.IsQuiet.of_passes_append frame.indent.passes frame.header.isQuiet_text
  rw [before, List.append_cons]
  exact (passes_fillerLines frame.fillers).append (hHeader.passes_line.append frame.openIndent.passes)

theorem passes_inside : Mode.code.Passes frame.inside .code :=
  Mode.Passes.cons rfl rfl (passes_propertyLines frame.properties)

theorem endsLine_inside : Text.EndsLine frame.inside :=
  Text.EndsLine.append (Or.inr ⟨[], rfl⟩) (endsLine_propertyLines frame.properties)

theorem isBalanced_body {children : List Char} (h : Text.IsBalanced children) :
    Text.IsBalanced (frame.body children) :=
  ((Text.isBalanced_of_passes frame.passes_inside).append h).append
    (Text.isBalanced_of_passes frame.closeIndent.passes)

theorem noLineFeed_header : '\n' ∉ frame.indent.chars ++ frame.header.text := by
  simp [frame.indent.noLineFeed, frame.header.noLineFeed]

/-- The header line is the last filled line in front of the opening brace. -/
theorem lastFilledLine_before {lead : List Char} (hLead : Text.EndsLine lead) :
    Text.lastFilledLine (lead ++ frame.before) = frame.header.text := by
  have hFillers := hLead.append (endsLine_fillerLines frame.fillers)
  have hTrim : Text.trim (frame.indent.chars ++ frame.header.text) = frame.header.text := by
    rw [Text.trim_append_of_isBlank frame.indent.isBlank_of_mem, frame.header.trim_text]
  have hFilled : Text.trim (frame.indent.chars ++ frame.header.text) ≠ [] := by
    rw [hTrim]
    exact frame.header.text_ne_nil
  rw [before, ← List.append_assoc, ← List.append_assoc,
    Text.lastFilledLine_append_blanks frame.openIndent.isBlank_of_mem,
    Text.lastFilledLine_append_line hFillers frame.noLineFeed_header hFilled, hTrim]

/-- There are no properties in front of the opening brace. -/
theorem ofLines_before : Property.ofLines frame.before = [] := by
  rw [before, ofLines_fillerLines_append, Property.ofLines_append,
    Property.ofLines_of_not_mem frame.noLineFeed_header, Property.ofLines_of_not_mem frame.openIndent.noLineFeed,
    Property.ofLine?_append_of_isBlank frame.indent.isBlank_of_mem, frame.header.ofLine?_text,
    Property.ofLine?_of_isBlank frame.openIndent.isBlank_of_mem]
  rfl

theorem ofLines_inside_append (rest : List Char) :
    Property.ofLines (frame.inside ++ rest) =
      frame.properties.map PropertyLine.property ++ Property.ofLines rest := by
  have hFirst := Property.ofLines_append [] (propertyLines frame.properties ++ rest)
  rw [inside, List.cons_append, ← ofLines_propertyLines_append]
  exact hFirst

end Frame

/-- Blocks that stand beside each other, each with the blocks nested in it. Fillers may follow the
last one. -/
inductive Regions where
  | done (fillers : List Filler)
  | block (frame : Frame) (children rest : Regions)

namespace Regions

def text : Regions → List Char
  | done fillers => fillerLines fillers
  | block frame children rest =>
    frame.before ++ '{' :: frame.body children.text ++ '}' :: '\n' :: rest.text

/-- The regions that the source consists of, when it starts at byte `base`. -/
def regions (base : Nat) : Regions → List Region
  | done _ => []
  | block frame children rest =>
    let offset := base + Text.byteLength frame.before
    let close := offset + 1 + Text.byteLength (frame.body children.text)
    frame.region offset (children.regions (offset + 1 + Text.byteLength frame.inside)) ::
      rest.regions (close + 1 + 1)

/-- How deep the blocks are nested. -/
def height : Regions → Nat
  | done _ => 0
  | block _ children rest => max (children.height + 1) rest.height

def isDone : Regions → Bool
  | done _ => true
  | block _ _ _ => false

/-- No block with the keyword `field` has a block inside it. -/
def FieldsAreLeaves : Regions → Prop
  | done _ => True
  | block frame children rest =>
    (frame.header.header.keyword = "field" → children.isDone = true) ∧
      children.FieldsAreLeaves ∧ rest.FieldsAreLeaves

instance decidableFieldsAreLeaves : (source : Regions) → Decidable source.FieldsAreLeaves
  | done _ => isTrue trivial
  | block frame children rest =>
    have := decidableFieldsAreLeaves children
    have := decidableFieldsAreLeaves rest
    inferInstanceAs (Decidable
      ((frame.header.header.keyword = "field" → children.isDone = true) ∧
        children.FieldsAreLeaves ∧ rest.FieldsAreLeaves))

theorem isBalanced_text (source : Regions) : Text.IsBalanced source.text := by
  induction source with
  | done fillers => exact Text.isBalanced_of_passes (passes_fillerLines fillers)
  | block frame children rest ihChildren ihRest =>
      have hBefore := Text.isBalanced_of_passes frame.passes_before
      have hLine : Text.IsBalanced ['\n'] := Text.isBalanced_of_passes ⟨rfl, rfl⟩
      have hBlock := (frame.isBalanced_body ihChildren).block
      have hText : (block frame children rest).text =
          frame.before ++ ('{' :: frame.body children.text ++ ['}']) ++ (['\n'] ++ rest.text) := by
        simp [text]
      rw [hText]
      exact (hBefore.append hBlock).append (hLine.append ihRest)

/-- The first block of a source. -/
theorem isFirst_block {lead : List Char} (hLead : Mode.code.Passes lead .code) (frame : Frame)
    (children rest : Regions) (tail : List Char) :
    Block.IsFirst (lead ++ (block frame children rest).text ++ tail)
      ⟨lead ++ frame.before, frame.body children.text, some (['\n'] ++ rest.text ++ tail)⟩ := by
  have hFirst := (frame.isBalanced_body children.isBalanced_text).isFirst
    (hLead.append frame.passes_before) (['\n'] ++ rest.text ++ tail)
  simpa [text] using hFirst

theorem find?_done {lead tail : List Char} (hLead : Mode.code.Passes lead .code)
    (hTail : Mode.code.Passes tail .code) (fillers : List Filler) :
    Block.find? (lead ++ (done fillers).text ++ tail) = none := by
  rw [Block.find?_eq_none_iff, text, ((hLead.append (passes_fillerLines fillers)).append hTail).1]
  simp

/-- The properties of a block are those of its own lines. -/
theorem ofLines_propertyText {frame : Frame} {children : Regions} (pre post : List Char)
    (hLeaf : frame.header.header.keyword = "field" → children.isDone = true) :
    Property.ofLines (Region.propertyText frame.header.header.keyword
      ⟨pre, frame.body children.text, some post⟩) = frame.properties.map PropertyLine.property := by
  cases children with
  | done fillers =>
      have hFind := find?_done frame.passes_inside frame.closeIndent.passes fillers
      have hBlank := Property.ofLines_of_not_mem frame.closeIndent.noLineFeed
      rw [Property.ofLine?_of_isBlank frame.closeIndent.isBlank_of_mem] at hBlank
      simp only [Region.propertyText, Frame.body, hFind, Block.isClosed, Option.isSome_some, if_true]
      rw [text, List.append_assoc, frame.ofLines_inside_append, ofLines_fillerLines_append, hBlank]
      simp
  | block inner children rest =>
      have hFirst := isFirst_block frame.passes_inside inner children rest frame.closeIndent.chars
      have hFind := (Block.find?_eq_some_iff _ _).mpr hFirst
      have hKeyword : ¬frame.header.header.keyword = "field" := fun h => by
        simpa [isDone] using hLeaf h
      simp only [Region.propertyText, Frame.body, hFind, beq_eq_false_iff_ne.mpr hKeyword,
        Bool.false_and, Bool.false_eq_true, if_false]
      rw [frame.ofLines_inside_append, inner.ofLines_before, List.append_nil]

theorem headerIssue?_header (line : HeaderLine) (text : List Char) :
    Region.headerIssue? line.header text = none := by
  cases line <;> rfl

/-- What matching makes of a block whose children are matched already. -/
theorem ofBlock_block {limit depth : Nat} {lead : List Char} (base : Nat) (inner : Forest)
    (hLead : Text.EndsLine lead) {frame : Frame} {children : Regions} (post : List Char)
    (hLeaf : frame.header.header.keyword = "field" → children.isDone = true)
    (hLimit : Region.reachesLimit limit depth
      ⟨lead ++ frame.before, frame.body children.text, some post⟩ = false) :
    Region.ofBlock limit depth base
      ⟨lead ++ frame.before, frame.body children.text, some post⟩ inner =
        ⟨[frame.region (base + Text.byteLength (lead ++ frame.before)) inner.regions],
          inner.findings⟩ := by
  have hLine := frame.lastFilledLine_before hLead
  have hHeader := frame.header.classify_text
  have hProperties := ofLines_propertyText (lead ++ frame.before) post hLeaf
  rw [Region.ofBlock_of_recognized base inner rfl _ hLimit]
  · simp only [Region.ofBody, hLine, hHeader, hProperties, Frame.region, Block.openOffset]
  · rw [hLine, hHeader]
    exact headerIssue?_header frame.header _

/-- Above the limit, nothing of a source is cut off. -/
theorem reachesLimit_eq_false {limit depth : Nat} {frame : Frame} {children : Regions}
    (pre : List Char) (post : Option (List Char)) (hHeight : depth + (children.height + 1) ≤ limit) :
    Region.reachesLimit limit depth ⟨pre, frame.body children.text, post⟩ = false := by
  cases children with
  | done fillers =>
      have hFind := find?_done frame.passes_inside frame.closeIndent.passes fillers
      rw [Region.reachesLimit, Frame.body, hFind]
      rfl
  | block inner children rest =>
      simp only [height] at hHeight
      have hBelow : ¬limit ≤ depth + 1 := by omega
      simp [Region.reachesLimit, hBelow]

/-- Matching a source that stands between whole lines and blanks gives back its regions. -/
theorem matchFrom_text (source : Regions) {limit depth : Nat} (base : Nat) {lead tail : List Char}
    (hFields : source.FieldsAreLeaves) (hHeight : depth + source.height ≤ limit)
    (hLine : Text.EndsLine lead) (hLead : Mode.code.Passes lead .code)
    (hTail : Mode.code.Passes tail .code) :
    Region.matchFrom limit depth base (lead ++ source.text ++ tail) =
      ⟨source.regions (base + Text.byteLength lead), []⟩ := by
  induction source generalizing depth base lead tail with
  | done fillers => exact Region.matchFrom_of_none _ _ _ (find?_done hLead hTail fillers)
  | block frame children rest ihChildren ihRest =>
      obtain ⟨hLeaf, hFieldsChildren, hFieldsRest⟩ := hFields
      simp only [height] at hHeight
      have hFirst := isFirst_block hLead frame children rest tail
      have hLimit : Region.reachesLimit limit depth
          ⟨lead ++ frame.before, frame.body children.text, some (['\n'] ++ rest.text ++ tail)⟩ =
            false := by
        apply reachesLimit_eq_false
        omega
      -- The body is its children behind the property lines and in front of the closing indentation;
      -- the rest of the source stands behind the line feed of the closing brace.
      have hChildren := ihChildren (base + (Text.byteLength (lead ++ frame.before) + 1))
        hFieldsChildren (by omega : depth + 1 + children.height ≤ limit) frame.endsLine_inside
        frame.passes_inside frame.closeIndent.passes
      have hNext : Text.EndsLine ['\n'] := Or.inr ⟨[], rfl⟩
      have hRest := ihRest (base + (Text.byteLength (lead ++ frame.before) + 1 +
        Text.byteLength (frame.body children.text)) + 1) hFieldsRest
        (by omega : depth + rest.height ≤ limit) hNext ⟨rfl, rfl⟩ hTail
      rw [Region.matchFrom_of_closed limit depth base hFirst rfl,
        Region.matchBody_of_not_reachesLimit base hLimit, ofBlock_block base _ hLine _ hLeaf hLimit]
      simp only [Block.bodyOffset, Block.closeOffset, Block.openOffset]
      rw [hRest]
      simp only [Frame.body] at hChildren ⊢
      rw [hChildren]
      have hNewline : Text.byteLength ['\n'] = 1 := rfl
      simp only [regions, Frame.body, Text.byteLength_append, hNewline, Nat.add_assoc]
      rfl

/-- Matching undoes writing: a source that is not nested deeper than is followed gives back its
regions, and nothing is noticed on the way. -/
theorem matchSource_text (source : Regions) (maxDepth : Nat) (hFields : source.FieldsAreLeaves)
    (hHeight : source.height ≤ maxDepth) :
    Region.matchSource maxDepth source.text = ⟨source.regions 0, []⟩ := by
  have hLimit : 0 + source.height ≤ max 1 maxDepth := by omega
  have hMatch := matchFrom_text source 0 hFields hLimit (Or.inl rfl) (Mode.Passes.nil .code)
    (Mode.Passes.nil .code)
  simpa [Region.matchSource] using hMatch

/-- A table extension with a property and one field among its fields. Comments, the caption and the names
hold braces that do not count. -/
def customerSource : Regions :=
  let margin : Indent := ⟨[' ', ' '], by decide, by decide⟩
  let flush : Indent := ⟨[], by decide, by decide⟩
  let comment : Filler := ⟨⟨"// a \x7b".toList, by decide, ⟨rfl, rfl⟩⟩, rfl⟩
  let caption : PropertyLine :=
    { fillers := [comment]
      indent := margin
      name := ⟨"Caption".toList, by decide⟩
      value := ⟨⟨"'a; \x7b'".toList, by decide, ⟨rfl, rfl⟩⟩, by decide⟩ }
  let table : HeaderLine :=
    .numbered ⟨"Table".toList, by decide, by decide⟩ 18
      ⟨"My \x7d".toList, by decide, by decide, by decide⟩
      (some ⟨"Customer".toList, by decide, by decide, by decide⟩)
  let fields : HeaderLine := .bare ⟨"Fields".toList, by decide⟩
  let field : HeaderLine :=
    .parameterized ⟨"field".toList, by decide⟩
      ⟨"1; \"No.\"; Code[20]".toList, by decide, ⟨rfl, rfl⟩⟩
  let inner : Regions := .block ⟨[], margin, field, margin, [], margin⟩ (.done []) (.done [])
  let outer : Regions := .block ⟨[], flush, fields, flush, [], flush⟩ inner (.done [])
  .block ⟨[], flush, table, flush, [caption], flush⟩ outer (.done [comment])

/-- The text of this source. -/
def customerSourceText : String :=
  "Table 18 \"My \x7d\" extends \"Customer\"\n\x7b\n// a \x7b\n  Caption = 'a; \x7b';\n" ++
    "Fields\n\x7b\n  field(1; \"No.\"; Code[20])\n  \x7b\n  \x7d\n\x7d\n\x7d\n// a \x7b\n"

theorem matchSource_customerSource :
    Region.matchSource 3 customerSourceText.toList =
      ⟨[{ keyword := "table"
          id := some 18
          name := some "My \x7d"
          objectType := "table"
          target := some "Customer"
          source := "Table 18 \"My \x7d\" extends \"Customer\""
          offset := 35
          properties := [⟨"Caption", "'a; \x7b'"⟩]
          children :=
            [{ keyword := "Fields"
               id := none
               name := none
               source := "Fields"
               offset := 71
               children :=
                [{ keyword := "field"
                   id := some 0
                   name := some "1; No.; Code[20]"
                   source := "field(1; \"No.\"; Code[20])"
                   offset := 103 }] }] }], []⟩ := by
  have hText : customerSourceText.toList = customerSource.text := by decide +kernel
  rw [hText, matchSource_text customerSource 3 (by decide) (by decide)]
  rfl

end Regions
end Written
end ObjectOutline
