import ObjectOutline.Proofs.Region.Siblings

/-! Occurrences: the regions of a forest in preorder, each with the offsets of the regions around it.
An occurrence holds the whole region, so equal occurrences have equal subtrees. -/
namespace ObjectOutline

/-- A region in a forest and the offsets of the regions around it, the innermost first. -/
structure Occurrence where
  around : List Nat
  region : Region

/-- The opening brace of an occurrence. -/
def Occurrence.opening (occurrence : Occurrence) : Opening :=
  ⟨occurrence.region.offset, occurrence.around⟩

namespace Region

mutual

/-- A region and all regions in it, each before what it holds. -/
def occurrences (around : List Nat) (region : Region) : List Occurrence :=
  match region with
  | ⟨_, _, _, _, _, _, offset, _, children⟩ =>
      ⟨around, region⟩ :: occurrencesAll (offset :: around) children

/-- All regions of a list of trees. -/
def occurrencesAll (around : List Nat) : List Region → List Occurrence
  | [] => []
  | region :: rest => occurrences around region ++ occurrencesAll around rest

end

theorem occurrences_eq (around : List Nat) (region : Region) :
    occurrences around region =
      ⟨around, region⟩ :: occurrencesAll (region.offset :: around) region.children := by
  cases region
  rw [occurrences]

@[simp] theorem occurrencesAll_nil (around : List Nat) : occurrencesAll around [] = [] := by
  rw [occurrencesAll]

theorem occurrencesAll_cons (around : List Nat) (region : Region) (rest : List Region) :
    occurrencesAll around (region :: rest) =
      ⟨around, region⟩ :: occurrencesAll (region.offset :: around) region.children ++
        occurrencesAll around rest := by
  rw [occurrencesAll, occurrences_eq]

@[simp] theorem occurrencesAll_append (around : List Nat) (first second : List Region) :
    occurrencesAll around (first ++ second) =
      occurrencesAll around first ++ occurrencesAll around second := by
  induction first with
  | nil => simp
  | cons region rest ih =>
      rw [List.cons_append, occurrencesAll_cons, ih, occurrencesAll_cons, List.append_assoc]

theorem occurrencesAll_eq_nil_iff (around : List Nat) (regions : List Region) :
    occurrencesAll around regions = [] ↔ regions = [] := by
  cases regions with
  | nil => simp
  | cons region rest => simp [occurrencesAll_cons]

/-- A statement holds of every list of regions when it holds of none and passes from the regions in a
region, and from those behind it, to the list that starts with it. -/
theorem inductionAll {motive : List Region → Prop} (nil : motive [])
    (cons : ∀ region rest, motive region.children → motive rest → motive (region :: rest)) :
    ∀ regions, motive regions
  | [] => nil
  | ⟨keyword, id, name, objectType, target, source, offset, properties, children⟩ :: rest =>
      cons ⟨keyword, id, name, objectType, target, source, offset, properties, children⟩ rest
        (inductionAll nil cons children) (inductionAll nil cons rest)

/-- Going down only adds to what is around a region. -/
theorem suffix_of_mem_occurrencesAll {around : List Nat} {regions : List Region} {x : Occurrence}
    (h : x ∈ occurrencesAll around regions) : around <:+ x.around := by
  induction regions using inductionAll generalizing around with
  | nil => simp at h
  | cons region rest ihInner ihRest =>
      rw [occurrencesAll_cons, List.mem_append, List.mem_cons] at h
      rcases h with (rfl | hInner) | hRest
      · exact List.suffix_refl _
      · exact (List.suffix_cons _ _).trans (ihInner hInner)
      · exact ihRest hRest

/-- The regions with nothing around them are those at the top level. -/
theorem filter_isEmpty_around (regions : List Region) :
    ((occurrencesAll [] regions).filter (fun x => x.around.isEmpty)).map Occurrence.region =
      regions := by
  induction regions with
  | nil => simp
  | cons region rest ih =>
      have hInner : (occurrencesAll [region.offset] region.children).filter
          (fun x => x.around.isEmpty) = [] := by
        apply List.filter_eq_nil_iff.mpr
        intro x hx hEmpty
        have hSuffix := suffix_of_mem_occurrencesAll hx
        rw [List.isEmpty_iff.mp hEmpty] at hSuffix
        simp at hSuffix
      rw [occurrencesAll_cons, List.filter_append, List.filter_cons_of_pos rfl, hInner,
        List.map_append, ih]
      rfl

/-- The occurrences in a kept block: its region, and then what its body holds. -/
theorem occurrencesAll_ofBody (around : List Nat) (base : Nat) (block : Block) (inner : Forest) :
    occurrencesAll around [ofBody base block inner] =
      ⟨around, ofBody base block inner⟩ ::
        occurrencesAll ((base + block.openOffset) :: around) inner.regions := by
  rw [occurrencesAll_cons, occurrencesAll_nil, List.append_nil]
  rfl

/-- What occurs in a block is its region or occurs in its body. -/
theorem mem_occurrencesAll_ofBlock {limit depth base : Nat} {block : Block} {inner : Forest}
    {around : List Nat} {x : Occurrence}
    (h : x ∈ occurrencesAll around (ofBlock limit depth base block inner).regions) :
    x.region.offset = base + block.openOffset ∨
      x ∈ occurrencesAll ((base + block.openOffset) :: around) inner.regions := by
  rw [regions_ofBlock] at h
  split at h
  · simp at h
  · rw [occurrencesAll_ofBody] at h
    rcases List.mem_cons.mp h with rfl | hInner
    · exact Or.inl rfl
    · exact Or.inr hInner

/-- Leaving a block out loses nothing of its body. -/
theorem occurrencesAll_ofBlock_of_mem {limit depth base : Nat} {block : Block} {inner : Forest}
    {around : List Nat} {x : Occurrence}
    (h : x ∈ occurrencesAll ((base + block.openOffset) :: around) inner.regions) :
    x ∈ occurrencesAll around (ofBlock limit depth base block inner).regions := by
  have hInner : inner.regions ≠ [] := by
    rintro hNone
    simp [hNone] at h
  rw [regions_ofBlock, if_neg (fun hCut => hInner hCut.2.1), occurrencesAll_ofBody]
  exact List.mem_cons_of_mem _ h

theorem mem_occurrencesAll_matchBody {limit depth base : Nat} {block : Block} {around : List Nat}
    {x : Occurrence} (h : x ∈ occurrencesAll around (matchBody limit depth base block).regions) :
    x ∈ occurrencesAll around
      (matchFrom limit (depth + 1) (base + block.bodyOffset) block.body).regions := by
  rw [matchBody] at h
  split at h
  · simp at h
  · exact h

/-- Every region stands at an opening brace of code. -/
theorem opening_of_mem_occurrencesAll {limit depth base : Nat} {text : List Char}
    {around : List Nat} {x : Occurrence}
    (h : x ∈ occurrencesAll around (matchFrom limit depth base text).regions) :
    Brace.opening x.region.offset ∈ Brace.ofText .code base text := by
  induction text using Block.induction generalizing depth base around with
  | none text hNone =>
      rw [matchFrom_of_none _ _ _ hNone] at h
      simp at h
  | closed text block post hFirst hPost ihBody ihPost =>
      rw [matchFrom_of_closed _ _ _ hFirst hPost, Forest.regions_append, occurrencesAll_append,
        List.mem_append] at h
      rw [hFirst.braces_of_closed hPost]
      rcases h with hBlock | hLater
      · rcases mem_occurrencesAll_ofBlock hBlock with hOwn | hInner
        · simp [hOwn]
        · simp [ihBody (mem_occurrencesAll_matchBody hInner)]
      · simp [ihPost hLater]
  | unclosed text block hFirst hPost ihBody =>
      rw [matchFrom_of_unclosed _ _ _ hFirst hPost] at h
      rw [hFirst.braces_of_unclosed hPost]
      rcases mem_occurrencesAll_ofBlock h with hOwn | hInner
      · simp [hOwn]
      · simp [ihBody (mem_occurrencesAll_matchBody hInner)]

end Region
end ObjectOutline
