import ObjectOutline.Brace.Mode
import ObjectOutline.Text.Bytes

/-! Nesting: the braces of code of a text, read in one pass from its start to its end and matched
with a stack. An opening brace is put on the stack, a closing brace takes the innermost open one off,
and a closing brace that finds the stack empty is passed over. No part of the text is read twice and
no block is looked for. -/
namespace ObjectOutline

/-- A brace of code and the byte offset at which it stands. -/
inductive Brace where
  | opening (offset : Nat)
  | closing (offset : Nat)
  deriving DecidableEq, Repr

/-- An opening brace of code, with the offsets of the braces that are open around it, the innermost
first. -/
structure Opening where
  offset : Nat
  around : List Nat
  deriving DecidableEq, Repr

namespace Brace

/-- The place of a brace. -/
def offset : Brace → Nat
  | opening o => o
  | closing o => o

/-- The brace opens a block. -/
def isOpening : Brace → Bool
  | opening _ => true
  | closing _ => false

/-- The same brace, `distance` bytes further on. -/
def moved (distance : Nat) : Brace → Brace
  | opening o => opening (o + distance)
  | closing o => closing (o + distance)

/-- The braces of code of a text that is read from `mode` on and starts at byte `start`. -/
def ofText (mode : Mode) (start : Nat) : List Char → List Brace
  | [] => []
  | c :: rest =>
      let later := ofText (mode.step c) (start + c.utf8Size) rest
      if mode.opens c then opening start :: later
      else if mode.closes c then closing start :: later
      else later

/-- The stack after one more brace. -/
def push (stack : List Nat) : Brace → List Nat
  | opening o => o :: stack
  | closing _ => stack.tail

/-- The stack after a run of braces. -/
def stackAfter (stack : List Nat) (braces : List Brace) : List Nat :=
  braces.foldl push stack

/-- The opening braces of a run, each with the stack that it is put on. -/
def openings (stack : List Nat) : List Brace → List Opening
  | [] => []
  | opening o :: rest => ⟨o, stack⟩ :: openings (o :: stack) rest
  | closing _ :: rest => openings stack.tail rest

/-- The offsets of the opening and the closing brace of each pair that a run completes. -/
def pairs (stack : List Nat) : List Brace → List (Nat × Nat)
  | [] => []
  | opening o :: rest => pairs (o :: stack) rest
  | closing c :: rest => (stack.head?.map (·, c)).toList ++ pairs stack.tail rest

/-- How many braces are open after a run that starts with `depth` open ones. A run that closes one
more than are open has no such number. -/
def depthAfter (depth : Nat) : List Brace → Option Nat
  | [] => some depth
  | opening _ :: rest => depthAfter (depth + 1) rest
  | closing _ :: rest =>
      match depth with
      | 0 => none
      | outer + 1 => depthAfter outer rest

end Brace

namespace Nesting

/-- The braces of code of a whole text. -/
def braces (text : List Char) : List Brace :=
  Brace.ofText .code 0 text

/-- The opening braces of code of a text, in order. -/
def openings (text : List Char) : List Opening :=
  Brace.openings [] (braces text)

/-- The matched braces of code of a text, in the order of the closing ones. -/
def pairs (text : List Char) : List (Nat × Nat) :=
  Brace.pairs [] (braces text)

/-- The greatest number of braces that are open at once. -/
def height (text : List Char) : Nat :=
  ((openings text).map fun x => x.around.length + 1).foldr max 0

/-- Some closing brace matches this opening brace. -/
def isClosed (text : List Char) (x : Opening) : Bool :=
  (pairs text).any fun pair => pair.1 == x.offset

/-- Some matched pair stands behind this opening brace. -/
def precedesPair (text : List Char) (x : Opening) : Bool :=
  (pairs text).any fun pair => x.offset < pair.1

/-- The text was cut off inside this block: it is never closed, it is nested, and nothing in it is
matched. -/
def isCutOff (text : List Char) (x : Opening) : Bool :=
  !isClosed text x && !x.around.isEmpty && !precedesPair text x

end Nesting

namespace Brace

theorem ofText_cons (mode : Mode) (start : Nat) (c : Char) (rest : List Char) :
    ofText mode start (c :: rest) =
      (if mode.opens c then [opening start] else if mode.closes c then [closing start] else []) ++
        ofText (mode.step c) (start + c.utf8Size) rest := by
  rw [ofText]
  split
  · rfl
  · split <;> rfl

theorem ofText_cons_of_opens {mode : Mode} {c : Char} (h : mode.opens c = true) (start : Nat)
    (rest : List Char) :
    ofText mode start (c :: rest) = opening start :: ofText .code (start + 1) rest := by
  rw [ofText_cons, if_pos h, Mode.step_of_opens h, Mode.eq_of_opens h]
  rfl

theorem ofText_cons_of_closes {mode : Mode} {c : Char} (h : mode.closes c = true) (start : Nat)
    (rest : List Char) :
    ofText mode start (c :: rest) = closing start :: ofText .code (start + 1) rest := by
  have hOpens : mode.opens c = false := by
    simp [Mode.opens, Mode.eq_of_closes h]
  rw [ofText_cons, if_neg (by simp [hOpens]), if_pos h, Mode.step_of_closes h, Mode.eq_of_closes h]
  rfl

theorem ofText_append (mode : Mode) (start : Nat) (left right : List Char) :
    ofText mode start (left ++ right) =
      ofText mode start left ++
        ofText (mode.run left) (start + Text.byteLength left) right := by
  induction left generalizing mode start with
  | nil => simp [ofText]
  | cons c rest ih =>
      rw [List.cons_append, ofText_cons, ih, ofText_cons, List.append_assoc, Mode.run_cons,
        Text.byteLength_cons, Nat.add_assoc]

/-- The braces of a text lie inside it. -/
theorem offset_bounds {mode : Mode} {start : Nat} {text : List Char} {brace : Brace}
    (h : brace ∈ ofText mode start text) :
    start ≤ brace.offset ∧ brace.offset < start + Text.byteLength text := by
  induction text generalizing mode start with
  | nil => simp [ofText] at h
  | cons c rest ih =>
      have hSize := c.utf8Size_pos
      rw [ofText_cons, List.mem_append] at h
      rw [Text.byteLength_cons]
      rcases h with hHere | hLater
      · have hStart : brace.offset = start := by
          split at hHere
          · simp_all [offset]
          · split at hHere <;> simp_all [offset]
        omega
      · have hBounds := ih hLater
        omega

/-- The braces of a text come in the order of their places. -/
theorem ofText_sorted (mode : Mode) (start : Nat) (text : List Char) :
    (ofText mode start text).Pairwise (fun first second => first.offset < second.offset) := by
  induction text generalizing mode start with
  | nil => exact List.Pairwise.nil
  | cons c rest ih =>
      have hLater : ∀ brace ∈ ofText (mode.step c) (start + c.utf8Size) rest,
          start < brace.offset := by
        intro brace hBrace
        have hSize := c.utf8Size_pos
        have hBounds := offset_bounds hBrace
        omega
      rw [ofText]
      split
      · exact List.pairwise_cons.mpr ⟨hLater, ih _ _⟩
      · split
        · exact List.pairwise_cons.mpr ⟨hLater, ih _ _⟩
        · exact ih _ _

/-- Moving a text moves its braces and changes nothing else. -/
theorem ofText_add (mode : Mode) (start distance : Nat) (text : List Char) :
    ofText mode (start + distance) text = (ofText mode start text).map (moved distance) := by
  induction text generalizing mode start with
  | nil => rfl
  | cons c rest ih =>
      have hLater := ih (mode.step c) (start + c.utf8Size)
      rw [Nat.add_right_comm] at hLater
      simp only [ofText, hLater]
      split
      · rfl
      · split <;> rfl

@[simp] theorem isOpening_moved (distance : Nat) (brace : Brace) :
    (brace.moved distance).isOpening = brace.isOpening := by
  cases brace <;> rfl

@[simp] theorem depthAfter_map_moved (depth distance : Nat) (braces : List Brace) :
    depthAfter depth (braces.map (moved distance)) = depthAfter depth braces := by
  induction braces generalizing depth with
  | nil => rfl
  | cons brace rest ih =>
      cases brace with
      | opening o => exact ih (depth + 1)
      | closing o =>
          cases depth with
          | zero => rfl
          | succ outer => exact ih outer

/-- The depth that a text reaches does not depend on where the text starts. -/
theorem depthAfter_ofText (depth : Nat) (mode : Mode) (start : Nat) (text : List Char) :
    depthAfter depth (ofText mode start text) = depthAfter depth (ofText mode 0 text) := by
  rw [← Nat.zero_add start, ofText_add, depthAfter_map_moved]

/-- Nor does it matter for the question whether a text opens a block. -/
theorem isOpening_of_mem_ofText {mode : Mode} {text : List Char} (start : Nat)
    (h : ∀ brace ∈ ofText mode 0 text, brace.isOpening = false) :
    ∀ brace ∈ ofText mode start text, brace.isOpening = false := by
  rw [← Nat.zero_add start, ofText_add]
  intro brace hBrace
  obtain ⟨original, hOriginal, rfl⟩ := List.mem_map.mp hBrace
  rw [isOpening_moved]
  exact h original hOriginal

@[simp] theorem stackAfter_nil (stack : List Nat) : stackAfter stack [] = stack := rfl

theorem stackAfter_cons (stack : List Nat) (brace : Brace) (rest : List Brace) :
    stackAfter stack (brace :: rest) = stackAfter (push stack brace) rest := rfl

theorem stackAfter_append (stack : List Nat) (first second : List Brace) :
    stackAfter stack (first ++ second) = stackAfter (stackAfter stack first) second :=
  List.foldl_append

theorem openings_append (stack : List Nat) (first second : List Brace) :
    openings stack (first ++ second) =
      openings stack first ++ openings (stackAfter stack first) second := by
  induction first generalizing stack with
  | nil => rfl
  | cons brace rest ih =>
      cases brace with
      | opening o => exact congrArg (_ :: ·) (ih (o :: stack))
      | closing c => exact ih stack.tail

theorem pairs_append (stack : List Nat) (first second : List Brace) :
    pairs stack (first ++ second) =
      pairs stack first ++ pairs (stackAfter stack first) second := by
  induction first generalizing stack with
  | nil => rfl
  | cons brace rest ih =>
      cases brace with
      | opening o => exact ih (o :: stack)
      | closing c =>
          rw [List.cons_append, pairs, ih, pairs, List.append_assoc]
          rfl

theorem depthAfter_append (depth : Nat) (first second : List Brace) :
    depthAfter depth (first ++ second) =
      (depthAfter depth first).bind (depthAfter · second) := by
  induction first generalizing depth with
  | nil => rfl
  | cons brace rest ih =>
      cases brace with
      | opening o => exact ih (depth + 1)
      | closing c =>
          cases depth with
          | zero => rfl
          | succ outer => exact ih outer

/-- A listed opening brace is a brace of the run. -/
theorem mem_of_mem_openings {stack : List Nat} {braces : List Brace} {x : Opening}
    (h : x ∈ openings stack braces) : opening x.offset ∈ braces := by
  induction braces generalizing stack with
  | nil => simp [openings] at h
  | cons brace rest ih =>
      cases brace with
      | opening o =>
          rcases List.mem_cons.mp h with rfl | hLater
          · exact List.mem_cons_self
          · exact List.mem_cons_of_mem _ (ih hLater)
      | closing c => exact List.mem_cons_of_mem _ (ih h)

theorem exists_mem_openings {braces : List Brace} {o : Nat} (stack : List Nat)
    (h : opening o ∈ braces) : ∃ x ∈ openings stack braces, x.offset = o := by
  induction braces generalizing stack with
  | nil => simp at h
  | cons brace rest ih =>
      cases brace with
      | opening o' =>
          rcases List.mem_cons.mp h with hHere | hLater
          · exact ⟨⟨o', stack⟩, List.mem_cons_self, (opening.inj hHere).symm⟩
          · obtain ⟨x, hx, hOffset⟩ := ih (o' :: stack) hLater
            exact ⟨x, List.mem_cons_of_mem _ hx, hOffset⟩
      | closing c =>
          rcases List.mem_cons.mp h with hHere | hLater
          · cases hHere
          · exact ih stack.tail hLater

/-- The opening braces are listed in their order. -/
theorem offsets_openings_sublist (stack : List Nat) (braces : List Brace) :
    ((openings stack braces).map Opening.offset).Sublist (braces.map offset) := by
  induction braces generalizing stack with
  | nil => exact List.Sublist.refl _
  | cons brace rest ih =>
      cases brace with
      | opening o => exact (ih (o :: stack)).cons_cons o
      | closing c => exact (ih stack.tail).cons c

theorem openings_eq_nil {stack : List Nat} {braces : List Brace}
    (h : ∀ brace ∈ braces, brace.isOpening = false) : openings stack braces = [] := by
  apply List.eq_nil_iff_forall_not_mem.mpr
  intro x hx
  have hOpening := h _ (mem_of_mem_openings hx)
  simp [isOpening] at hOpening

/-- Both braces of a pair are braces of the run, unless the opening one was open before it. -/
theorem mem_of_mem_pairs {stack : List Nat} {braces : List Brace} {o c : Nat}
    (h : (o, c) ∈ pairs stack braces) :
    (o ∈ stack ∨ opening o ∈ braces) ∧ closing c ∈ braces := by
  induction braces generalizing stack with
  | nil => simp [pairs] at h
  | cons brace rest ih =>
      cases brace with
      | opening o' =>
          obtain ⟨hOpen, hClose⟩ := ih h
          refine ⟨?_, List.mem_cons_of_mem _ hClose⟩
          rcases hOpen with hStack | hRest
          · rcases List.mem_cons.mp hStack with rfl | hOuter
            · exact Or.inr List.mem_cons_self
            · exact Or.inl hOuter
          · exact Or.inr (List.mem_cons_of_mem _ hRest)
      | closing c' =>
          rw [pairs, List.mem_append] at h
          rcases h with hHere | hLater
          · simp only [Option.mem_toList, Option.map_eq_some_iff, Prod.mk.injEq] at hHere
            obtain ⟨top, hTop, rfl, rfl⟩ := hHere
            exact ⟨Or.inl (List.mem_of_mem_head? hTop), List.mem_cons_self⟩
          · obtain ⟨hOpen, hClose⟩ := ih hLater
            refine ⟨?_, List.mem_cons_of_mem _ hClose⟩
            exact hOpen.imp List.mem_of_mem_tail (List.mem_cons_of_mem _)

end Brace

namespace Nesting

/-- Fewer braces are open around a brace than are open at once. -/
theorem length_around_lt_height {text : List Char} {x : Opening} (h : x ∈ openings text) :
    x.around.length < height text := by
  rw [height]
  generalize openings text = all at h ⊢
  induction all with
  | nil => simp at h
  | cons y rest ih =>
      rw [List.map_cons, List.foldr_cons]
      rcases List.mem_cons.mp h with rfl | hRest
      · exact Nat.lt_of_lt_of_le (Nat.lt_succ_self _) (Nat.le_max_left _ _)
      · exact Nat.lt_of_lt_of_le (ih hRest) (Nat.le_max_right _ _)

end Nesting
end ObjectOutline
