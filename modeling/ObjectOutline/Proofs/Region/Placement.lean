import ObjectOutline.Proofs.Region.Occurrence

/-! Placement: the regions of a source stand at its opening braces of code. Matching reads every body
and every rest of a text again from its start; a single pass with a stack finds the same braces, with
the same braces around them. Only the braces inside which the source was cut off have no region. -/
namespace ObjectOutline.Region

/-- Kept, judged by the pairs of a part of a text: at the top level, closed, or before a pair. -/
def isKeptBy (pairs : List (Nat × Nat)) (x : Opening) : Bool :=
  x.around.isEmpty || pairs.any fun pair => x.offset ≤ pair.1

theorem isKeptBy_iff {pairs : List (Nat × Nat)} {x : Opening} :
    isKeptBy pairs x = true ↔ x.around = [] ∨ ∃ pair ∈ pairs, x.offset ≤ pair.1 := by
  simp [isKeptBy]

theorem not_isCutOff (text : List Char) (x : Opening) :
    (!Nesting.isCutOff text x) = isKeptBy (Nesting.pairs text) x := by
  rw [Bool.eq_iff_iff, isKeptBy_iff]
  simp only [Nesting.isCutOff, Nesting.isClosed, Nesting.precedesPair, Bool.not_and, Bool.not_not,
    Bool.or_eq_true, List.any_eq_true, beq_iff_eq, decide_eq_true_eq, List.isEmpty_iff,
    Nat.le_iff_lt_or_eq]
  constructor
  · rintro ((⟨pair, hPair, hEq⟩ | hTop) | ⟨pair, hPair, hLt⟩)
    · exact Or.inr ⟨pair, hPair, Or.inr hEq.symm⟩
    · exact Or.inl hTop
    · exact Or.inr ⟨pair, hPair, Or.inl hLt⟩
  · rintro (hTop | ⟨pair, hPair, hLt | hEq⟩)
    · exact Or.inl (Or.inr hTop)
    · exact Or.inr ⟨pair, hPair, hLt⟩
    · exact Or.inl (Or.inl ⟨pair, hPair, hEq.symm⟩)

/-- The opening braces that a run keeps, judged by the pairs that the run itself completes. -/
def keptOpenings (stack : List Nat) (braces : List Brace) : List Opening :=
  (Brace.openings stack braces).filter (isKeptBy (Brace.pairs stack braces))

/-- In a balanced run every opening brace is closed, and so it is kept. -/
theorem isKeptBy_of_balanced {stack : List Nat} {braces : List Brace} {pairs : List (Nat × Nat)}
    (hDepth : Brace.depthAfter 0 braces = some 0)
    (hPairs : ∀ pair ∈ Brace.pairs stack braces, pair ∈ pairs) {x : Opening}
    (hx : x ∈ Brace.openings stack braces) : isKeptBy pairs x = true := by
  obtain ⟨c, hPair⟩ := Brace.exists_mem_pairs [] stack hDepth
    (Or.inr (Brace.mem_of_mem_openings hx))
  exact isKeptBy_iff.mpr (Or.inr ⟨_, hPairs _ hPair, Nat.le_refl _⟩)

/-- Pairs before a brace do not keep it. -/
theorem isKeptBy_append {earlier later : List (Nat × Nat)} {x : Opening}
    (h : ∀ pair ∈ earlier, pair.1 < x.offset) :
    isKeptBy (earlier ++ later) x = isKeptBy later x := by
  have hEarlier : earlier.any (fun pair => x.offset ≤ pair.1) = false := by
    simpa using h
  rw [isKeptBy, List.any_append, hEarlier, Bool.false_or, isKeptBy]

/-- A body keeps some brace exactly when it completes a pair. -/
theorem keptOpenings_eq_nil_iff {stack : List Nat} {braces : List Brace} (hStack : stack ≠ [])
    (hDepth : (Brace.depthAfter 0 braces).isSome = true) :
    keptOpenings stack braces = [] ↔ Brace.pairs stack braces = [] := by
  rw [keptOpenings, List.filter_eq_nil_iff]
  constructor
  · intro hNone
    apply List.eq_nil_iff_forall_not_mem.mpr
    intro pair hPair
    have hOpening := (Brace.Keeps.of_isSome hDepth).opening_of_mem_pairs hPair
    obtain ⟨x, hx, hOffset⟩ := Brace.exists_mem_openings stack hOpening
    exact hNone x hx (isKeptBy_iff.mpr (Or.inr ⟨pair, hPair, Nat.le_of_eq hOffset⟩))
  · intro hPairs x hx hKept
    rw [hPairs] at hKept
    obtain ⟨top, hAround⟩ := Brace.around_of_mem_openings [] stack hDepth hx
    simp [isKeptBy, hAround, hStack] at hKept

section

variable {text post : List Char} {block : Block} {stack : List Nat} {base : Nat}

/-- A closed block is kept with all that is in it, and what follows is judged by itself. -/
theorem keptOpenings_of_closed (hFirst : Block.IsFirst text block) (hPost : block.post = some post)
    (hKeeps : Brace.Keeps stack (Brace.ofText .code base text)) :
    keptOpenings stack (Brace.ofText .code base text) =
      ⟨base + block.openOffset, stack⟩ ::
        keptOpenings ((base + block.openOffset) :: stack)
            (Brace.ofText .code (base + block.bodyOffset) block.body) ++
          keptOpenings stack (Brace.ofText .code (base + block.closeOffset + 1) post) := by
  have hDepth := hFirst.depthAfter_body hPost (base + block.bodyOffset)
  have hInnerKeeps :=
    hFirst.keeps_body ((base + block.openOffset) :: stack) (base + block.bodyOffset)
  rw [keptOpenings, hFirst.openings_of_closed hPost hKeeps, hFirst.pairs_of_closed hPost hKeeps,
    List.filter_cons_of_pos, List.filter_append, List.cons_append]
  · refine congrArg (_ :: ·) (congr (congrArg _ ?_) ?_)
    · apply List.filter_congr
      intro x hx
      rw [isKeptBy_of_balanced hDepth (fun pair hPair => hPair) hx]
      exact isKeptBy_of_balanced hDepth (fun pair hPair => List.mem_append_left _ hPair) hx
    · apply List.filter_congr
      intro x hx
      have hLater := Brace.offset_bounds (Brace.mem_of_mem_openings hx)
      rw [List.append_cons]
      apply isKeptBy_append
      intro pair hPair
      simp only [Block.closeOffset, Block.bodyOffset, Brace.offset] at hLater
      rcases List.mem_append.mp hPair with hInner | hOwn
      · have hBounds := hInnerKeeps.offset_bounds hInner
        simp only [Block.bodyOffset] at hBounds
        omega
      · rw [List.mem_singleton.mp hOwn]
        omega
  · exact isKeptBy_iff.mpr (Or.inr ⟨_, List.mem_append_right _ List.mem_cons_self, Nat.le_refl _⟩)

/-- An unclosed block is kept at the top level and when its body keeps something. -/
theorem keptOpenings_of_unclosed (hFirst : Block.IsFirst text block) (hPost : block.post = none)
    (hKeeps : Brace.Keeps stack (Brace.ofText .code base text)) :
    keptOpenings stack (Brace.ofText .code base text) =
      if stack ≠ [] ∧ keptOpenings ((base + block.openOffset) :: stack)
          (Brace.ofText .code (base + block.bodyOffset) block.body) = [] then []
      else ⟨base + block.openOffset, stack⟩ ::
        keptOpenings ((base + block.openOffset) :: stack)
          (Brace.ofText .code (base + block.bodyOffset) block.body) := by
  have hInnerKeeps :=
    hFirst.keeps_body ((base + block.openOffset) :: stack) (base + block.bodyOffset)
  have hDepth := hFirst.isSome_depthAfter_body (base + block.bodyOffset)
  have hNil := keptOpenings_eq_nil_iff
    (List.cons_ne_nil (base + block.openOffset) stack) hDepth
  have hOwn : isKeptBy (Brace.pairs ((base + block.openOffset) :: stack)
      (Brace.ofText .code (base + block.bodyOffset) block.body)) ⟨base + block.openOffset, stack⟩ =
        true ↔ ¬(stack ≠ [] ∧ keptOpenings ((base + block.openOffset) :: stack)
          (Brace.ofText .code (base + block.bodyOffset) block.body) = []) := by
    rw [isKeptBy_iff, hNil]
    constructor
    · rintro (hTop | ⟨pair, hPair, -⟩) ⟨hStack, hNone⟩
      · exact hStack hTop
      · simp [hNone] at hPair
    · intro hNot
      by_cases hTop : stack = []
      · exact Or.inl hTop
      · obtain ⟨pair, hPair⟩ := List.exists_mem_of_ne_nil _ fun hNone => hNot ⟨hTop, hNone⟩
        have hBounds := hInnerKeeps.offset_bounds hPair
        simp only [Block.bodyOffset] at hBounds
        exact Or.inr ⟨pair, hPair, by simp only; omega⟩
  rw [keptOpenings, hFirst.openings_of_unclosed hPost hKeeps, hFirst.pairs_of_unclosed hPost hKeeps]
  split
  · next hCut =>
    rw [List.filter_cons_of_neg (fun hTrue => hOwn.mp hTrue hCut)]
    exact hCut.2
  · next hCut => rw [List.filter_cons_of_pos (hOwn.mpr hCut), keptOpenings]

end

/-- The limit is not reached in a body whose nesting stays below it. -/
theorem matchBody_of_height {limit depth base : Nat} {text : List Char} {block : Block}
    {stack : List Nat} (hFirst : Block.IsFirst text block) (hStack : stack.length = depth + 1)
    (hHeight : ∀ x ∈ Brace.openings stack (Brace.ofText .code (base + block.bodyOffset) block.body),
      x.around.length < limit) :
    matchBody limit depth base block =
      matchFrom limit (depth + 1) (base + block.bodyOffset) block.body := by
  rw [matchBody]
  cases hFind : Block.find? block.body with
  | none => simp [matchFrom_of_none _ _ _ hFind]
  | some nested =>
      have hNested := (Block.find?_eq_some_iff _ _).mp hFind
      have hTop := hHeight _ (hNested.exists_opening_at (hFirst.keeps_body stack _))
      rw [if_neg (by simp only at hTop; omega)]

/-- Matching a part of a text at its place gives the regions of the opening braces that the part keeps,
with the same braces around them. -/
theorem openings_matchFrom (limit depth base : Nat) (text : List Char) (stack : List Nat)
    (hStack : stack.length = depth) (hKeeps : Brace.Keeps stack (Brace.ofText .code base text))
    (hHeight : ∀ x ∈ Brace.openings stack (Brace.ofText .code base text), x.around.length < limit) :
    (occurrencesAll stack (matchFrom limit depth base text).regions).map Occurrence.opening =
      keptOpenings stack (Brace.ofText .code base text) := by
  induction text using Block.induction generalizing depth base stack with
  | none text hNone =>
      have hClosing := (Block.find?_eq_none_iff text).mp hNone
      rw [matchFrom_of_none _ _ _ hNone, keptOpenings,
        Brace.openings_eq_nil (Brace.isOpening_of_mem_ofText base hClosing)]
      rfl
  | closed text block post hFirst hPost ihBody ihPost =>
      have hInnerKeeps :=
        hFirst.keeps_body ((base + block.openOffset) :: stack) (base + block.bodyOffset)
      have hClosed := Block.isClosed_of_post hPost
      rw [hFirst.openings_of_closed hPost hKeeps] at hHeight
      have hInnerHeight := fun x hx =>
        hHeight x (List.mem_cons_of_mem _ (List.mem_append_left _ hx))
      have hInner := ihBody (depth + 1) _ _ (congrArg (· + 1) hStack) hInnerKeeps hInnerHeight
      have hLater := ihPost depth _ _ hStack (hFirst.keeps_post hPost hKeeps) fun x hx =>
        hHeight x (List.mem_cons_of_mem _ (List.mem_append_right _ hx))
      have hBody := matchBody_of_height hFirst (congrArg (· + 1) hStack) hInnerHeight
      rw [matchFrom_of_closed _ _ _ hFirst hPost, Forest.regions_append, regions_ofBlock,
        if_neg (by simp [hClosed]), occurrencesAll_append, occurrencesAll_ofBody, hBody,
        List.map_append, List.map_cons, hInner, hLater, keptOpenings_of_closed hFirst hPost hKeeps]
      rfl
  | unclosed text block hFirst hPost ihBody =>
      have hInnerKeeps :=
        hFirst.keeps_body ((base + block.openOffset) :: stack) (base + block.bodyOffset)
      have hUnclosed := Block.not_isClosed_of_post hPost
      rw [hFirst.openings_of_unclosed hPost hKeeps] at hHeight
      have hInnerHeight := fun x hx => hHeight x (List.mem_cons_of_mem _ hx)
      have hInner := ihBody (depth + 1) _ _ (congrArg (· + 1) hStack) hInnerKeeps hInnerHeight
      have hBody := matchBody_of_height hFirst (congrArg (· + 1) hStack) hInnerHeight
      rw [matchFrom_of_unclosed _ _ _ hFirst hPost, regions_ofBlock, hBody,
        keptOpenings_of_unclosed hFirst hPost hKeeps]
      have hTop : stack ≠ [] ↔ 0 < depth := by
        rw [← hStack, List.length_pos_iff]
      have hNil : keptOpenings ((base + block.openOffset) :: stack)
          (Brace.ofText .code (base + block.bodyOffset) block.body) = [] ↔
            (matchFrom limit (depth + 1) (base + block.bodyOffset) block.body).regions = [] := by
        rw [← hInner, List.map_eq_nil_iff, occurrencesAll_eq_nil_iff]
      by_cases hCut : stack ≠ [] ∧ keptOpenings ((base + block.openOffset) :: stack)
          (Brace.ofText .code (base + block.bodyOffset) block.body) = []
      · rw [if_pos hCut, if_pos ⟨hUnclosed, hNil.mp hCut.2, hTop.mp hCut.1⟩]
        rfl
      · rw [if_neg hCut, if_neg fun h => hCut ⟨hTop.mpr h.2.2, hNil.mpr h.2.1⟩,
          occurrencesAll_ofBody, List.map_cons, hInner]
        rfl

/-- The regions of a source, in preorder, stand at the opening braces of code in the order of their
offsets, with the braces that a single pass finds open around each as their ancestors. Left out are
the braces inside which the source was cut off, and nothing else. The regions at the top level are
those of the braces with nothing around them. -/
theorem occurrences_matchSource (maxDepth : Nat) (text : List Char)
    (hDepth : Nesting.height text ≤ maxDepth) :
    (occurrencesAll [] (matchSource maxDepth text).regions).map Occurrence.opening =
        (Nesting.openings text).filter (fun x => !Nesting.isCutOff text x) ∧
      ((occurrencesAll [] (matchSource maxDepth text).regions).map
        (fun x => x.region.offset)).Pairwise (· < ·) ∧
      (matchSource maxDepth text).regions.map Region.offset =
        ((Nesting.openings text).filter (fun x => x.around.isEmpty)).map Opening.offset := by
  have hPlaces : (occurrencesAll [] (matchSource maxDepth text).regions).map Occurrence.opening =
      (Nesting.openings text).filter (fun x => !Nesting.isCutOff text x) := by
    simp only [not_isCutOff]
    apply openings_matchFrom _ _ _ _ _ rfl (Brace.keeps_nil _)
    intro x hx
    have hHeight := Nesting.length_around_lt_height hx
    omega
  refine ⟨hPlaces, ?_, ?_⟩
  · have hSorted : ((Nesting.openings text).map Opening.offset).Pairwise (· < ·) := by
      apply List.Pairwise.sublist (Brace.offsets_openings_sublist _ _)
      exact List.pairwise_map.mpr (Brace.ofText_sorted _ _ _)
    have hKept : (((Nesting.openings text).filter (fun x => !Nesting.isCutOff text x)).map
        Opening.offset).Pairwise (· < ·) :=
      List.Pairwise.sublist (List.Sublist.map _ List.filter_sublist) hSorted
    rw [← hPlaces, List.map_map] at hKept
    exact hKept
  · have hTop (x : Opening) : (x.around.isEmpty && !Nesting.isCutOff text x) = x.around.isEmpty := by
      cases hAround : x.around.isEmpty <;> simp [Nesting.isCutOff, hAround]
    calc
      _ = (((occurrencesAll [] (matchSource maxDepth text).regions).filter
            (fun x => x.around.isEmpty)).map Occurrence.region).map Region.offset := by
          rw [filter_isEmpty_around]
      _ = (((occurrencesAll [] (matchSource maxDepth text).regions).map Occurrence.opening).filter
            (fun x => x.around.isEmpty)).map Opening.offset := by
          rw [List.filter_map, List.map_map, List.map_map]
          rfl
      _ = _ := by
          rw [hPlaces, List.filter_filter]
          simp only [hTop]

/-- The block of `c` is never closed and holds nothing, so it has no region; the block around it is
never closed either, and is kept for what else is in it. -/
theorem occurrences_of_unclosed_blocks :
    Nesting.height "a \x7b\nb \x7b \x7d\nc \x7b".toList ≤ 2 ∧
      (occurrencesAll [] (matchSource 2 "a \x7b\nb \x7b \x7d\nc \x7b".toList).regions).map Occurrence.opening =
        [⟨2, []⟩, ⟨6, [2]⟩] := by
  have hHeight : Nesting.height "a \x7b\nb \x7b \x7d\nc \x7b".toList ≤ 2 := by decide
  exact ⟨hHeight, (occurrences_matchSource 2 _ hHeight).1.trans (by decide)⟩

end ObjectOutline.Region
