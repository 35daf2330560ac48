import ObjectOutline.Parse
import ObjectOutline.Proofs.Brace.Returns
import ObjectOutline.Proofs.Symbol.Placed

/-! Line endings do not matter. A source whose lines end with a carriage return and a line feed has the
same objects and the same diagnostics, at the same lines and columns, as the source whose lines end with a
line feed alone. In bytes its regions stand further on, and that is all that is different about them. -/
namespace ObjectOutline

/-- A text that starts at `base` gets its carriage returns and then starts at `base'`; `place` says where
each of its parts ends then. -/
def Text.Places (place : Nat → Nat) (base base' : Nat) (text : List Char) : Prop :=
  ∀ left, left <+: text →
    place (base + Text.byteLength left) = base' + Text.byteLength (Text.withReturns left)

namespace Text.Places

variable {place : Nat → Nat} {base base' : Nat} {text : List Char} {block : Block}

theorem of_append {before rest : List Char} (h : Places place base base' (before ++ rest)) :
    Places place (base + byteLength before) (base' + byteLength (withReturns before)) rest := by
  intro left hLeft
  have hWhole := h (before ++ left) ((List.prefix_append_right_inj before).mpr hLeft)
  rwa [withReturns_append, byteLength_append, byteLength_append, ← Nat.add_assoc,
    ← Nat.add_assoc] at hWhole

theorem openOffset (h : Places place base base' text) (hFirst : Block.IsFirst text block) :
    base' + block.withReturns.openOffset = place (base + block.openOffset) :=
  (h block.pre ((List.prefix_append _ _).trans hFirst.body_prefix)).symm

theorem body (h : Places place base base' text) (hFirst : Block.IsFirst text block) :
    Places place (base + block.bodyOffset) (base' + block.withReturns.bodyOffset) block.body := by
  have hInner : Places place base base' ((block.pre ++ ['{']) ++ block.body) := by
    intro left hLeft
    rw [List.append_assoc] at hLeft
    exact h left (hLeft.trans hFirst.body_prefix)
  have hBody := hInner.of_append
  rwa [withReturns_append, byteLength_append, byteLength_append] at hBody

theorem post {post : List Char} (h : Places place base base' text) (hFirst : Block.IsFirst text block)
    (hPost : block.post = some post) :
    Places place (base + block.closeOffset + 1) (base' + block.withReturns.closeOffset + 1) post := by
  have hText : text = (block.pre ++ ['{'] ++ block.body ++ ['}']) ++ post := by
    rw [hFirst.eq_of_closed hPost]
    simp
  rw [hText] at h
  have hRest := h.of_append
  simp only [withReturns_append, byteLength_append, ← Nat.add_assoc] at hRest
  simp only [Block.closeOffset, Block.bodyOffset, ← Nat.add_assoc]
  exact hRest

end Text.Places

namespace Region

theorem propertyText_withReturns (keyword : String) (block : Block) :
    propertyText keyword block.withReturns = Text.withReturns (propertyText keyword block) := by
  rw [propertyText, propertyText, Block.isClosed_withReturns, Block.withReturns,
    Block.find?_withReturns]
  cases Block.find? block.body with
  | none => simp only [Option.map_none, apply_ite Text.withReturns, Text.withReturns_nil]
  | some nested => simp only [Option.map_some, apply_ite Text.withReturns, Block.withReturns]

theorem ownIssues_withReturns (limit depth : Nat) (block : Block) :
    ownIssues limit depth block.withReturns = ownIssues limit depth block := by
  have hLine : Text.lastFilledLine block.withReturns.pre = Text.lastFilledLine block.pre :=
    Text.lastFilledLine_withReturns block.pre
  have hLimit : reachesLimit limit depth block.withReturns = reachesLimit limit depth block := by
    rw [reachesLimit, Block.withReturns, Block.find?_withReturns, Option.isSome_map, reachesLimit]
  rw [ownIssues, hLine, Block.isClosed_withReturns, hLimit, ownIssues]

section

variable {place : Nat → Nat} {base base' : Nat} {text : List Char} {block : Block}

/-- A block reads as it does without the carriage returns. -/
theorem ofBody_withReturns
    (hPlace : base' + block.withReturns.openOffset = place (base + block.openOffset))
    (inner : Forest) :
    ofBody base' block.withReturns (inner.placed place) = placed place (ofBody base block inner) := by
  have hLine : Text.lastFilledLine block.withReturns.pre = Text.lastFilledLine block.pre :=
    Text.lastFilledLine_withReturns block.pre
  rw [placed_eq, ofBody, ofBody, hLine, hPlace, propertyText_withReturns,
    Property.ofLines_withReturns]
  rfl

/-- A block gives what it gives without the carriage returns, if its body does. -/
theorem ofBlock_withReturns {limit depth : Nat} (hPlaces : Text.Places place base base' text)
    (hFirst : Block.IsFirst text block)
    (hBody : matchFrom limit (depth + 1) (base' + block.withReturns.bodyOffset)
        (Text.withReturns block.body) =
      (matchFrom limit (depth + 1) (base + block.bodyOffset) block.body).placed place) :
    ofBlock limit depth base' block.withReturns (matchBody limit depth base' block.withReturns) =
      (ofBlock limit depth base block (matchBody limit depth base block)).placed place := by
  have hOpen := hPlaces.openOffset hFirst
  rw [matchBody_placed hBody]
  exact ofBlock_placed _ block.isClosed_withReturns (ownIssues_withReturns _ _ _) hOpen
    (ofBody_withReturns hOpen _)

/-- What is matched in a text is matched in the text with carriage returns, at its place there. -/
theorem matchFrom_withReturns (hPlaces : Text.Places place base base' text) (limit depth : Nat) :
    matchFrom limit depth base' (Text.withReturns text) =
      (matchFrom limit depth base text).placed place := by
  induction text using Block.induction generalizing depth base base' with
  | none text hNone =>
      have hNone' : Block.find? (Text.withReturns text) = none := by
        rw [Block.find?_withReturns, hNone, Option.map_none]
      rw [matchFrom_of_none _ _ _ hNone, matchFrom_of_none _ _ _ hNone', Forest.placed_empty]
  | closed text block post hFirst hPost ihBody ihPost =>
      have hPost' : block.withReturns.post = some (Text.withReturns post) := by
        rw [Block.withReturns, hPost, Option.map_some]
      rw [matchFrom_of_closed _ _ _ hFirst hPost,
        matchFrom_of_closed _ _ _ hFirst.withReturns hPost',
        ofBlock_withReturns hPlaces hFirst (ihBody (hPlaces.body hFirst) _),
        ihPost (hPlaces.post hFirst hPost), Forest.placed_append]
  | unclosed text block hFirst hPost ihBody =>
      have hPost' : block.withReturns.post = none := by
        rw [Block.withReturns, hPost, Option.map_none]
      rw [matchFrom_of_unclosed _ _ _ hFirst hPost,
        matchFrom_of_unclosed _ _ _ hFirst.withReturns hPost',
        ofBlock_withReturns hPlaces hFirst (ihBody (hPlaces.body hFirst) _)]

end

theorem matchSource_withReturns (maxDepth : Nat) (text : List Char) :
    matchSource maxDepth (Text.withReturns text) =
      (matchSource maxDepth text).placed (Text.placeWithReturns text) := by
  apply matchFrom_withReturns
  rintro left ⟨right, rfl⟩
  rw [Nat.zero_add, Nat.zero_add, Text.placeWithReturns_append]

end Region

/-- A finding is reported at the same line and column. -/
theorem Finding.report_withReturns (finding : Finding) (text : List Char) :
    (finding.placed (Text.placeWithReturns text)).report (Text.withReturns text) =
      finding.report text := by
  rw [report, report, placed, Position.ofOffset, Position.walk_withReturns, Position.ofOffset]

namespace Parse

theorem unsupported?_placed (place : Nat → Nat) (region : Region) :
    unsupported? (region.placed place) = (unsupported? region).map (Finding.placed place) := by
  have hOffset : (region.placed place).offset = place region.offset := by
    rw [Region.placed_eq]
  rw [unsupported?, unsupported?, Region.toSymbol_placed, hOffset]
  cases region.toSymbol with
  | table symbol => rfl
  | page symbol => rfl
  | unsupported header =>
      rw [apply_ite (Option.map (Finding.placed place))]
      rfl

theorem filterMap_unsupported?_placedAll (place : Nat → Nat) (regions : List Region) :
    (Region.placedAll place regions).filterMap unsupported? =
      (regions.filterMap unsupported?).map (Finding.placed place) := by
  rw [Region.placedAll_eq_map, List.filterMap_map, List.map_filterMap]
  exact congrArg (List.filterMap · regions) (funext (unsupported?_placed place))

theorem objects_withReturns (maxDepth : Nat) (text : List Char) :
    objects maxDepth (Text.withReturns text) = objects maxDepth text := by
  rw [objects, objects, Region.matchSource_withReturns, Forest.regions_placed,
    Forest.findings_placed, Region.map_placedAll _ (Region.toSymbol_placed _),
    filterMap_unsupported?_placedAll, ← List.map_append, List.map_map]
  exact congrArg (ParsedFile.mk _)
    (List.map_congr_left fun finding _ => finding.report_withReturns text)

/-- Line endings do not matter, for one object as for all objects of a source. With a carriage return in
front of each line feed a source gives the same objects, with every name, value, caption, header line and
data type, and the same diagnostics in the same order, with the same messages at the same lines and
columns. -/
theorem text_withReturns (maxDepth : Nat) (text : List Char) :
    Parse.text maxDepth (Text.withReturns text) = Parse.text maxDepth text ∧
      objects maxDepth (Text.withReturns text) = objects maxDepth text := by
  have hObjects := objects_withReturns maxDepth text
  exact ⟨by rw [Parse.text, hObjects, Parse.text], hObjects⟩

end Parse
end ObjectOutline
