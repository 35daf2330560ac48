import ObjectOutline.Parse
import ObjectOutline.Proofs.Brace.Parents
import ObjectOutline.Proofs.Region.Findings

/-! Top-level objects. Whatever is wrong with a source, each opening brace with nothing around it gives an
object: neither the limit on nesting nor a missing closing brace takes one away, and none is made up. What
parsing reports about the number of objects follows from that. -/
namespace ObjectOutline

/-- The opening braces of code with nothing around them. -/
def Nesting.topLevel (text : List Char) : List Opening :=
  (openings text).filter fun x => x.around.isEmpty

/-- Inside a block nothing stands at the top level. -/
theorem Block.IsFirst.filter_isEmpty_body {text : List Char} {block : Block}
    (h : IsFirst text block) (o start : Nat) :
    (Brace.openings [o] (Brace.ofText .code start block.body)).filter
      (fun x => x.around.isEmpty) = [] := by
  apply List.filter_eq_nil_iff.mpr
  intro x hx hEmpty
  obtain ⟨top, hAround⟩ := Brace.around_of_mem_openings [] [o] (h.isSome_depthAfter_body start) hx
  simp [hAround] at hEmpty

namespace Region

variable {text : List Char}

/-- At the top level a block is kept whether it is closed or not, and whatever its body gives. -/
theorem regions_ofBlock_zero (limit base : Nat) (block : Block) (inner : Forest) :
    (ofBlock limit 0 base block inner).regions = [ofBody base block inner] := by
  rw [regions_ofBlock, if_neg (fun hCut => Nat.lt_irrefl 0 hCut.2.2)]

theorem offsets_matchFrom_zero (limit base : Nat) (text : List Char) :
    (matchFrom limit 0 base text).regions.map Region.offset =
      ((Brace.openings [] (Brace.ofText .code base text)).filter
        (fun x => x.around.isEmpty)).map Opening.offset := by
  induction text using Block.induction generalizing base with
  | none text hNone =>
      rw [matchFrom_of_none _ _ _ hNone, (Block.openings_eq_nil_iff base text).mpr hNone]
      rfl
  | closed text block post hFirst hPost ihBody ihPost =>
      rw [matchFrom_of_closed _ _ _ hFirst hPost, Forest.regions_append, regions_ofBlock_zero,
        hFirst.openings_of_closed hPost (Brace.keeps_nil _), List.filter_cons_of_pos rfl,
        List.filter_append, hFirst.filter_isEmpty_body, List.map_append, ihPost]
      rfl
  | unclosed text block hFirst hPost ihBody =>
      rw [matchFrom_of_unclosed _ _ _ hFirst hPost, regions_ofBlock_zero,
        hFirst.openings_of_unclosed hPost (Brace.keeps_nil _), List.filter_cons_of_pos rfl,
        hFirst.filter_isEmpty_body]
      rfl

/-- The regions at the top level stand at the braces at the top level, whatever the limit. -/
theorem offsets_matchSource (maxDepth : Nat) (text : List Char) :
    (matchSource maxDepth text).regions.map Region.offset =
      (Nesting.topLevel text).map Opening.offset :=
  offsets_matchFrom_zero _ 0 text

/-- The first region of a source is that of its first block. -/
theorem exists_regions_matchSource {block : Block} (h : Block.IsFirst text block) (maxDepth : Nat) :
    ∃ later, (matchSource maxDepth text).regions =
      ofBody 0 block (matchBody (max 1 maxDepth) 0 0 block) :: later := by
  rw [matchSource]
  cases hPost : block.post with
  | none => exact ⟨[], by rw [matchFrom_of_unclosed _ _ _ h hPost, regions_ofBlock_zero]⟩
  | some post =>
      rw [matchFrom_of_closed _ _ _ h hPost, Forest.regions_append, regions_ofBlock_zero]
      exact ⟨_, rfl⟩

/-- A source that opens a block has a region. -/
theorem regions_matchSource_eq_nil_iff (maxDepth : Nat) (text : List Char) :
    (matchSource maxDepth text).regions = [] ↔ Nesting.openings text = [] := by
  rw [Nesting.openings, Nesting.braces, Block.openings_eq_nil_iff]
  cases hFind : Block.find? text with
  | none => simp [matchSource, matchFrom_of_none _ _ _ hFind]
  | some block =>
      obtain ⟨later, hRegions⟩ :=
        exists_regions_matchSource ((Block.find?_eq_some_iff text block).mp hFind) maxDepth
      simp [hRegions]

end Region

/-- The issue is about the number of objects in a source, not about a place in it. -/
def Issue.countsObjects : Issue → Bool
  | noObject | extraObjects _ => true
  | neverClosed _ | headerMissing | headerUnrecognized _ | idOutOfRange _ | nestedTooDeep _ _
  | unsupportedType _ => false

theorem Issue.countsObjects_iff (issue : Issue) :
    issue.countsObjects = true ↔ issue.code = .noObject ∨ issue.code = .extraObject := by
  cases issue <;> simp [countsObjects, code]

namespace Region

theorem countsObjects_headerIssue? {header : Header} {line : List Char} {issue : Issue}
    (h : headerIssue? header line = some issue) : issue.countsObjects = false := by
  rw [headerIssue?] at h
  split at h
  · split at h
    · obtain rfl := Option.some.inj h
      rfl
    · obtain rfl := Option.some.inj h
      rfl
  · obtain rfl := Option.some.inj h
    rfl
  all_goals cases h

theorem countsObjects_ownIssues {limit depth : Nat} {block : Block} {issue : Issue}
    (h : issue ∈ ownIssues limit depth block) : issue.countsObjects = false := by
  rw [ownIssues] at h
  simp only [List.mem_append, Option.mem_toList] at h
  rcases h with (hHeader | hOpen) | hDeep
  · exact countsObjects_headerIssue? hHeader
  · split at hOpen
    · cases hOpen
    · obtain rfl := List.mem_singleton.mp hOpen
      rfl
  · split at hDeep
    · obtain rfl := List.mem_singleton.mp hDeep
      rfl
    · cases hDeep

/-- What holds of the issues that blocks give rise to by themselves holds of all that is found. -/
theorem forall_issue_matchFrom {limit : Nat} {p : Issue → Prop}
    (h : ∀ depth block, ∀ issue ∈ ownIssues limit depth block, p issue) (depth base : Nat)
    (text : List Char) : ∀ finding ∈ (matchFrom limit depth base text).findings, p finding.issue := by
  have hBlock {depth base : Nat} {block : Block}
      (hBody : ∀ finding ∈ (matchFrom limit (depth + 1) (base + block.bodyOffset) block.body).findings,
        p finding.issue) :
      ∀ finding ∈ (ofBlock limit depth base block (matchBody limit depth base block)).findings,
        p finding.issue := by
    intro finding hFinding
    rw [findings_ofBlock, List.mem_append, List.mem_map] at hFinding
    rcases hFinding with ⟨issue, hOwn, rfl⟩ | hInner
    · exact h depth block issue hOwn
    · rw [matchBody] at hInner
      split at hInner
      · simp at hInner
      · exact hBody finding hInner
  induction text using Block.induction generalizing depth base with
  | none text hNone => simp [matchFrom_of_none _ _ _ hNone]
  | closed text block post hFirst hPost ihBody ihPost =>
      rw [matchFrom_of_closed _ _ _ hFirst hPost, Forest.findings_append, List.forall_mem_append]
      exact ⟨hBlock (ihBody _ _), ihPost _ _⟩
  | unclosed text block hFirst hPost ihBody =>
      rw [matchFrom_of_unclosed _ _ _ hFirst hPost]
      exact hBlock (ihBody _ _)

end Region

namespace Parse

theorem object_text (maxDepth : Nat) (text : List Char) :
    (Parse.text maxDepth text).object =
      (objects maxDepth text).objects.head?.getD .unparsed := by
  rw [Parse.text]
  split <;> simp_all

theorem object_of_find?_eq_none {text : List Char} (h : Block.find? text = none) (maxDepth : Nat) :
    (Parse.text maxDepth text).object = .unparsed := by
  rw [object_text, objects, Region.matchSource, Region.matchFrom_of_none _ _ _ h]
  rfl

/-- The object of a source is that of its first block. -/
theorem object_of_isFirst {text : List Char} {block : Block} (h : Block.IsFirst text block)
    (maxDepth : Nat) :
    (Parse.text maxDepth text).object =
      (Region.ofBody 0 block (Region.matchBody (max 1 maxDepth) 0 0 block)).toSymbol := by
  obtain ⟨later, hRegions⟩ := Region.exists_regions_matchSource h maxDepth
  rw [object_text, objects, hRegions]
  rfl

/-- Matching and building report nothing about the number of objects. -/
theorem filter_diagnostics_objects (maxDepth : Nat) (text : List Char) {code : DiagnosticCode}
    (hCode : code = .noObject ∨ code = .extraObject) :
    (objects maxDepth text).diagnostics.filter (fun d => d.code == code) = [] := by
  have hMatching : ∀ finding ∈ (Region.matchSource maxDepth text).findings,
      finding.issue.countsObjects = false :=
    Region.forall_issue_matchFrom (fun _ _ _ => Region.countsObjects_ownIssues) _ _ _
  have hBuilding : ∀ finding ∈ (Region.matchSource maxDepth text).regions.filterMap unsupported?,
      finding.issue.countsObjects = false := by
    intro finding hFinding
    obtain ⟨region, -, hRegion⟩ := List.mem_filterMap.mp hFinding
    rw [unsupported?] at hRegion
    split at hRegion
    · split at hRegion
      · cases hRegion
      · obtain rfl := Option.some.inj hRegion
        rfl
    all_goals cases hRegion
  rw [objects, List.filter_eq_nil_iff]
  intro diagnostic hDiagnostic hSame
  obtain ⟨finding, hFinding, rfl⟩ := List.mem_map.mp hDiagnostic
  have hIssue : finding.issue.countsObjects = false :=
    (List.forall_mem_append.mpr ⟨hMatching, hBuilding⟩) finding hFinding
  have hCounts : finding.issue.countsObjects = true := by
    rw [Issue.countsObjects_iff]
    rcases hCode with rfl | rfl
    · exact Or.inl (beq_iff_eq.mp hSame)
    · exact Or.inr (beq_iff_eq.mp hSame)
  simp [hCounts] at hIssue

/-- What parsing one object adds to the diagnostics: that there is none, or how many more there are. -/
theorem diagnostics_text (maxDepth : Nat) (text : List Char) :
    (Parse.text maxDepth text).diagnostics =
      (objects maxDepth text).diagnostics ++
        ((if (objects maxDepth text).objects = [] then [Issue.noObject.report (some .start)] else []) ++
          if 2 ≤ (objects maxDepth text).objects.length then
            [(Issue.extraObjects ((objects maxDepth text).objects.length - 1)).report none]
          else []) := by
  rw [Parse.text]
  split
  · next hObjects => simp [hObjects]
  · next object hObjects => simp [hObjects]
  · next object extra hNone hObjects =>
    obtain ⟨second, rest, rfl⟩ := List.exists_cons_of_ne_nil hNone
    simp [hObjects]

/-- Objects at the top level survive. Whatever is wrong with a source and whatever the limit, there is one
object for each opening brace of code with nothing around it, in order, built from the region at that
brace. The first one is the object of the source. That there is none is reported exactly when the source
opens no block, and that there are more exactly when there are at least two; the message names the number
of the others. -/
theorem objects_survive (maxDepth : Nat) (text : List Char) :
    (Region.matchSource maxDepth text).regions.map Region.offset =
      (Nesting.topLevel text).map Opening.offset ∧
    (objects maxDepth text).objects =
      (Region.matchSource maxDepth text).regions.map Region.toSymbol ∧
    (Parse.text maxDepth text).object = (objects maxDepth text).objects.head?.getD .unparsed ∧
    (Parse.text maxDepth text).diagnostics.filter (fun d => d.code == .noObject) =
      (if Nesting.openings text = [] then
        [{ severity := .warning
           code := .noObject
           message := "no object declaration found"
           position := some ⟨0, 0⟩ }]
      else []) ∧
    (Parse.text maxDepth text).diagnostics.filter (fun d => d.code == .extraObject) =
      (if 2 ≤ (Nesting.topLevel text).length then
        [{ severity := .information
           code := .extraObject
           message := toString ((Nesting.topLevel text).length - 1) ++
             " more top-level region(s) after the first object ignored"
           position := none }]
      else []) := by
  have hOffsets := Region.offsets_matchSource maxDepth text
  have hLength : (objects maxDepth text).objects.length = (Nesting.topLevel text).length := by
    have hSame := congrArg List.length hOffsets
    rw [List.length_map, List.length_map] at hSame
    rw [objects, List.length_map, hSame]
  have hNone : (objects maxDepth text).objects = [] ↔ Nesting.openings text = [] := by
    rw [← Region.regions_matchSource_eq_nil_iff maxDepth]
    exact List.map_eq_nil_iff
  refine ⟨hOffsets, rfl, object_text maxDepth text, ?_, ?_⟩
  · rw [diagnostics_text, List.filter_append, filter_diagnostics_objects _ _ (Or.inl rfl)]
    simp only [hNone]
    split <;> split <;> rfl
  · rw [diagnostics_text, List.filter_append, filter_diagnostics_objects _ _ (Or.inr rfl), hLength]
    split <;> split <;> rfl

end Parse
end ObjectOutline
