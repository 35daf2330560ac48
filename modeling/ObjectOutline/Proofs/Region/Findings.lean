import ObjectOutline.Proofs.Brace.Unclosed
import ObjectOutline.Proofs.Region.Siblings

/-! Findings: what matching reports, and where. Every finding is about an opening brace of code. Those
about unclosed braces are found one level below the other, since the unclosed blocks of a text lie in
each other, and each level that is matched reports its own before it goes down. -/
namespace ObjectOutline

/-- The places at which findings report `code`, in their order. -/
def Finding.offsetsOf (code : DiagnosticCode) (findings : List Finding) : List Nat :=
  (findings.filter fun finding => finding.issue.code == code).map Finding.offset

@[simp] theorem Finding.offsetsOf_nil (code : DiagnosticCode) : offsetsOf code [] = [] := rfl

@[simp] theorem Finding.offsetsOf_append (code : DiagnosticCode) (first second : List Finding) :
    offsetsOf code (first ++ second) = offsetsOf code first ++ offsetsOf code second := by
  simp only [offsetsOf, List.filter_append, List.map_append]

namespace Region

/-- The diagnostics of matching a source, in the order in which they are found. -/
def diagnostics (maxDepth : Nat) (source : List Char) : List Diagnostic :=
  (matchSource maxDepth source).findings.map (Finding.report source)

variable {text post : List Char} {block : Block}

/-- The places of the diagnostics with one code. -/
theorem positions_diagnostics (maxDepth : Nat) (source : List Char) (code : DiagnosticCode) :
    ((diagnostics maxDepth source).filter (fun d => d.code == code)).map Diagnostic.position =
      (Finding.offsetsOf code (matchSource maxDepth source).findings).map
        (fun o => some (Position.ofOffset source o)) := by
  rw [diagnostics, List.filter_map, List.map_map, Finding.offsetsOf, List.map_map]
  rfl

theorem opening_of_mem_findings {limit depth base : Nat} {finding : Finding}
    (h : finding ∈ (matchFrom limit depth base text).findings) :
    Brace.opening finding.offset ∈ Brace.ofText .code base text := by
  -- A finding of a block is one of its own or one of its body.
  have hBlock {limit depth base : Nat} {block : Block}
      (h : finding ∈ (ofBlock limit depth base block (matchBody limit depth base block)).findings) :
      finding.offset = base + block.openOffset ∨
        finding ∈ (matchFrom limit (depth + 1) (base + block.bodyOffset) block.body).findings := by
    rw [findings_ofBlock, List.mem_append, List.mem_map] at h
    rcases h with ⟨issue, -, rfl⟩ | hInner
    · exact Or.inl rfl
    · rw [matchBody] at hInner
      split at hInner
      · simp at hInner
      · exact Or.inr hInner
  induction text using Block.induction generalizing depth base with
  | none text hNone => simp [matchFrom_of_none _ _ _ hNone] at h
  | closed text block post hFirst hPost ihBody ihPost =>
      rw [matchFrom_of_closed _ _ _ hFirst hPost, Forest.findings_append, List.mem_append] at h
      rw [hFirst.braces_of_closed hPost]
      rcases h with hOwn | hLater
      · rcases hBlock hOwn with hOffset | hInner
        · simp [hOffset]
        · simp [ihBody hInner]
      · simp [ihPost hLater]
  | unclosed text block hFirst hPost ihBody =>
      rw [matchFrom_of_unclosed _ _ _ hFirst hPost] at h
      rw [hFirst.braces_of_unclosed hPost]
      rcases hBlock h with hOffset | hInner
      · simp [hOffset]
      · simp [ihBody hInner]

theorem offsetsOf_headerIssue? (header : Header) (line : List Char) (o : Nat)
    {code : DiagnosticCode} (hCode : code = .unbalancedBrace ∨ code = .depthLimit) :
    Finding.offsetsOf code ((headerIssue? header line).toList.map (⟨o, ·⟩)) = [] := by
  rw [headerIssue?]
  cases header.shape with
  | numbered | parameterized | bare => rfl
  | invalidId => rcases hCode with rfl | rfl <;> rfl
  | unrecognized =>
      cases line with
      | nil => rcases hCode with rfl | rfl <;> rfl
      | cons c rest => rcases hCode with rfl | rfl <;> rfl

/-- A block reports itself as unclosed when it is. -/
theorem offsetsOf_neverClosed_ofBlock (limit depth base : Nat) (block : Block) (inner : Forest) :
    Finding.offsetsOf .unbalancedBrace (ofBlock limit depth base block inner).findings =
      (if block.isClosed then [] else [base + block.openOffset]) ++
        Finding.offsetsOf .unbalancedBrace inner.findings := by
  rw [findings_ofBlock, Finding.offsetsOf_append, ownIssues]
  simp only [List.map_append, Finding.offsetsOf_append]
  rw [offsetsOf_headerIssue? _ _ _ (Or.inl rfl)]
  cases block.isClosed <;> cases reachesLimit limit depth block <;> rfl

/-- Matching a part of a text reports the braces that the part leaves open, one for each level down to
the limit. -/
theorem offsetsOf_neverClosed_matchFrom (limit depth base : Nat) (text : List Char)
    (h : depth < limit) :
    Finding.offsetsOf .unbalancedBrace (matchFrom limit depth base text).findings =
      (Brace.stackAfter [] (Brace.ofText .code base text)).reverse.take (limit - depth) := by
  induction text using Block.induction generalizing depth base with
  | none text hNone =>
      have hEmpty : Brace.stackAfter [] (Brace.ofText .code base text) = [] :=
        Brace.stackAfter_of_closing
          (Brace.isOpening_of_mem_ofText base ((Block.find?_eq_none_iff text).mp hNone))
      rw [matchFrom_of_none _ _ _ hNone, hEmpty]
      simp
  | closed text block post hFirst hPost ihBody ihPost =>
      have hClosed := Block.isClosed_of_post hPost
      -- What is open inside a closed block is closed inside it.
      have hInner : Finding.offsetsOf .unbalancedBrace (matchBody limit depth base block).findings =
          [] := by
        rw [matchBody]
        split
        · rfl
        · next hLimit =>
          have hDepth := hFirst.depthAfter_body hPost (base + block.bodyOffset)
          rw [ihBody _ _ (Nat.lt_of_not_le hLimit), Brace.stackAfter_of_balanced hDepth]
          simp
      rw [matchFrom_of_closed _ _ _ hFirst hPost, Forest.findings_append, Finding.offsetsOf_append,
        offsetsOf_neverClosed_ofBlock, hInner, if_pos hClosed, ihPost _ _ h,
        hFirst.stackAfter_of_closed hPost]
      rfl
  | unclosed text block hFirst hPost ihBody =>
      -- One level is spent on the block itself, the others are left for its body.
      have hUnclosed := Block.not_isClosed_of_post hPost
      have hInner : Finding.offsetsOf .unbalancedBrace (matchBody limit depth base block).findings =
          (Brace.stackAfter []
            (Brace.ofText .code (base + block.bodyOffset) block.body)).reverse.take
              (limit - (depth + 1)) := by
        rw [matchBody]
        split
        · next hLimit => simp [Nat.sub_eq_zero_of_le hLimit]
        · next hLimit => exact ihBody _ _ (Nat.lt_of_not_le hLimit)
      have hLevels : limit - depth = limit - (depth + 1) + 1 := by omega
      rw [matchFrom_of_unclosed _ _ _ hFirst hPost, offsetsOf_neverClosed_ofBlock, hInner,
        hUnclosed, hFirst.stackAfter_of_unclosed hPost, List.reverse_append, hLevels]
      rfl

theorem offsetsOf_neverClosed_matchSource (maxDepth : Nat) (text : List Char) :
    Finding.offsetsOf .unbalancedBrace (matchSource maxDepth text).findings =
      (Nesting.unclosed text).take (max 1 maxDepth) :=
  offsetsOf_neverClosed_matchFrom _ 0 0 text (by omega)

/-- The diagnostics about unclosed braces stand at the braces that a single pass leaves open, from the
outermost on, as many as there are levels. Whatever the limit, there is one exactly when some brace is
never closed. -/
theorem unclosed_diagnostics (maxDepth : Nat) (text : List Char) :
    ((diagnostics maxDepth text).filter (fun d => d.code == .unbalancedBrace)).map
        Diagnostic.position =
      ((Nesting.unclosed text).take (max 1 maxDepth)).map
        (fun o => some (Position.ofOffset text o)) ∧
      ((diagnostics maxDepth text).filter (fun d => d.code == .unbalancedBrace)).length =
        min (Nesting.unclosed text).length (max 1 maxDepth) ∧
      (Nesting.unclosed text).Pairwise (· < ·) ∧
      ((∃ d ∈ diagnostics maxDepth text, d.code = .unbalancedBrace) ↔
        ∃ x ∈ Nesting.openings text, Nesting.isClosed text x = false) := by
  have hPositions := positions_diagnostics maxDepth text .unbalancedBrace
  rw [offsetsOf_neverClosed_matchSource] at hPositions
  have hLength := congrArg List.length hPositions
  rw [List.length_map, List.length_map, List.length_take, Nat.min_comm] at hLength
  refine ⟨hPositions, hLength, Nesting.unclosed_sorted text, ?_⟩
  calc
    (∃ d ∈ diagnostics maxDepth text, d.code = .unbalancedBrace) ↔
        0 < ((diagnostics maxDepth text).filter (fun d => d.code == .unbalancedBrace)).length := by
      simp [List.length_pos_iff_exists_mem]
    _ ↔ 0 < (Nesting.unclosed text).length := by
      rw [hLength]
      omega
    _ ↔ ∃ x ∈ Nesting.openings text, Nesting.isClosed text x = false := by
      simp only [List.length_pos_iff_exists_mem, Nesting.mem_unclosed_iff]
      constructor
      · rintro ⟨_, x, hx, -, hOpen⟩
        exact ⟨x, hx, hOpen⟩
      · rintro ⟨x, hx, hOpen⟩
        exact ⟨_, x, hx, rfl, hOpen⟩

end Region
end ObjectOutline
