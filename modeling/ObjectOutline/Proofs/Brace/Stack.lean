import ObjectOutline.Proofs.Brace.Nesting

/-! Runs of braces that leave a stack alone. The braces inside a block are matched among themselves,
so what is open around the block is never taken off, and the same holds of the braces between two
blocks that stand beside each other. -/
namespace ObjectOutline

/-- The same brace with more around it. -/
def Opening.under (outer : List Nat) (x : Opening) : Opening :=
  ⟨x.offset, x.around ++ outer⟩

namespace Brace

/-- A run that does not close more than `inner` leaves the stack below it as it was. -/
theorem stackAfter_append_stack (inner outer : List Nat) {braces : List Brace}
    (h : (depthAfter inner.length braces).isSome = true) :
    stackAfter (inner ++ outer) braces = stackAfter inner braces ++ outer := by
  induction braces generalizing inner with
  | nil => rfl
  | cons brace rest ih =>
      cases brace with
      | opening o => exact ih (o :: inner) h
      | closing c =>
          cases inner with
          | nil => simp [depthAfter] at h
          | cons o inner => exact ih inner h

/-- The depth of such a run is the height of the stack behind it. -/
theorem length_stackAfter (stack : List Nat) {braces : List Brace} {depth : Nat}
    (h : depthAfter stack.length braces = some depth) :
    (stackAfter stack braces).length = depth := by
  induction braces generalizing stack with
  | nil => exact Option.some.inj h
  | cons brace rest ih =>
      cases brace with
      | opening o => exact ih (o :: stack) h
      | closing c =>
          cases stack with
          | nil => simp [depthAfter] at h
          | cons o stack => exact ih stack h

/-- What lies below a run is around all that the run opens. -/
theorem openings_append_stack (inner outer : List Nat) {braces : List Brace}
    (h : (depthAfter inner.length braces).isSome = true) :
    openings (inner ++ outer) braces = (openings inner braces).map (Opening.under outer) := by
  induction braces generalizing inner with
  | nil => rfl
  | cons brace rest ih =>
      cases brace with
      | opening o => exact congrArg (_ :: ·) (ih (o :: inner) h)
      | closing c =>
          cases inner with
          | nil => simp [depthAfter] at h
          | cons o inner => exact ih inner h

/-- Such a run matches its closing braces above what lies below it. -/
theorem pairs_append_stack (inner outer : List Nat) {braces : List Brace}
    (h : (depthAfter inner.length braces).isSome = true) :
    pairs (inner ++ outer) braces = pairs inner braces := by
  induction braces generalizing inner with
  | nil => rfl
  | cons brace rest ih =>
      cases brace with
      | opening o => exact ih (o :: inner) h
      | closing c =>
          cases inner with
          | nil => simp [depthAfter] at h
          | cons o inner => exact congrArg ((o, c) :: ·) (ih inner h)

theorem around_of_mem_openings (inner outer : List Nat) {braces : List Brace} {x : Opening}
    (h : (depthAfter inner.length braces).isSome = true)
    (hx : x ∈ openings (inner ++ outer) braces) : ∃ top, x.around = top ++ outer := by
  rw [openings_append_stack inner outer h] at hx
  obtain ⟨y, -, rfl⟩ := List.mem_map.mp hx
  exact ⟨y.around, rfl⟩

/-- Such a run completes no pair whose opening brace lies below `inner`. -/
theorem opening_of_mem_pairs (inner outer : List Nat) {braces : List Brace} {o c : Nat}
    (h : (depthAfter inner.length braces).isSome = true)
    (hPair : (o, c) ∈ pairs (inner ++ outer) braces) : o ∈ inner ∨ opening o ∈ braces := by
  induction braces generalizing inner with
  | nil => simp [pairs] at hPair
  | cons brace rest ih =>
      cases brace with
      | opening o' =>
          rcases ih (o' :: inner) h hPair with hInner | hRest
          · rcases List.mem_cons.mp hInner with rfl | hInner
            · exact Or.inr List.mem_cons_self
            · exact Or.inl hInner
          · exact Or.inr (List.mem_cons_of_mem _ hRest)
      | closing c' =>
          cases inner with
          | nil => simp [depthAfter] at h
          | cons top inner =>
              rcases List.mem_cons.mp hPair with hHere | hLater
              · simp only [Prod.mk.injEq] at hHere
                exact Or.inl (hHere.1 ▸ List.mem_cons_self)
              · exact (ih inner h hLater).imp (List.mem_cons_of_mem _) (List.mem_cons_of_mem _)

/-- A run that closes `inner` and all that it opens itself completes a pair for each of them. -/
theorem exists_mem_pairs (inner outer : List Nat) {braces : List Brace} {o : Nat}
    (h : depthAfter inner.length braces = some 0) (ho : o ∈ inner ∨ opening o ∈ braces) :
    ∃ c, (o, c) ∈ pairs (inner ++ outer) braces := by
  induction braces generalizing inner with
  | nil =>
      have hInner : inner = [] := List.length_eq_zero_iff.mp (Option.some.inj h)
      simp [hInner] at ho
  | cons brace rest ih =>
      cases brace with
      | opening o' =>
          apply ih (o' :: inner) h
          simp only [List.mem_cons, opening.injEq] at ho ⊢
          rcases ho with hInner | rfl | hRest
          · exact Or.inl (Or.inr hInner)
          · exact Or.inl (Or.inl rfl)
          · exact Or.inr hRest
      | closing c =>
          cases inner with
          | nil => simp [depthAfter] at h
          | cons top inner =>
              simp only [List.mem_cons, reduceCtorEq, false_or] at ho
              rcases ho with (rfl | hInner) | hRest
              · exact ⟨c, List.mem_cons_self⟩
              · obtain ⟨c', hPair⟩ := ih inner h (Or.inl hInner)
                exact ⟨c', List.mem_cons_of_mem _ hPair⟩
              · obtain ⟨c', hPair⟩ := ih inner h (Or.inr hRest)
                exact ⟨c', List.mem_cons_of_mem _ hPair⟩

/-- More open blocks around a run change its depth by their number. -/
theorem depthAfter_add {depth after : Nat} {braces : List Brace}
    (h : depthAfter depth braces = some after) (extra : Nat) :
    depthAfter (depth + extra) braces = some (after + extra) := by
  induction braces generalizing depth with
  | nil => exact congrArg (fun d => some (d + extra)) (Option.some.inj h)
  | cons brace rest ih =>
      cases brace with
      | opening o =>
          have hRest := @ih (depth + 1) h
          rwa [Nat.add_right_comm] at hRest
      | closing c =>
          cases depth with
          | zero => simp [depthAfter] at h
          | succ outer =>
              rw [Nat.add_right_comm]
              exact ih h

/-- A balanced run between its own two braces is balanced. -/
theorem depthAfter_block {braces : List Brace} (h : depthAfter 0 braces = some 0) (o c : Nat) :
    depthAfter 0 (opening o :: (braces ++ [closing c])) = some 0 := by
  rw [depthAfter, depthAfter_append, depthAfter_add h 1]
  rfl

/-- The stack after a run that closes all that it opens. -/
theorem stackAfter_of_balanced {stack : List Nat} {braces : List Brace}
    (h : depthAfter 0 braces = some 0) : stackAfter stack braces = stack := by
  have hInner : stackAfter [] braces = [] := List.length_eq_zero_iff.mp (length_stackAfter [] h)
  have hKeeps : (depthAfter 0 braces).isSome = true := by rw [h]; rfl
  have hStack := stackAfter_append_stack [] stack hKeeps
  rwa [hInner] at hStack

/-- Closing braces alone close more than is open. -/
theorem eq_nil_of_isSome_depthAfter {braces : List Brace}
    (hClosing : ∀ brace ∈ braces, brace.isOpening = false)
    (hDepth : (depthAfter 0 braces).isSome = true) : braces = [] := by
  cases braces with
  | nil => rfl
  | cons brace rest =>
      cases brace with
      | opening o => simp [isOpening] at hClosing
      | closing c => simp [depthAfter] at hDepth

/-- A run takes nothing off the stack that it starts with, or there is nothing to take. -/
def Keeps (stack : List Nat) (braces : List Brace) : Prop :=
  stack = [] ∨ (depthAfter 0 braces).isSome = true

theorem Keeps.of_isSome {stack : List Nat} {braces : List Brace}
    (h : (depthAfter 0 braces).isSome = true) : Keeps stack braces :=
  Or.inr h

theorem keeps_nil (braces : List Brace) : Keeps [] braces :=
  Or.inl rfl

/-- What a run keeps is kept by its part behind a balanced part. -/
theorem Keeps.of_append {stack : List Nat} {first second : List Brace}
    (h : Keeps stack (first ++ second)) (hFirst : depthAfter 0 first = some 0) :
    Keeps stack second := by
  rcases h with rfl | hDepth
  · exact keeps_nil second
  · rw [depthAfter_append, hFirst] at hDepth
    exact Or.inr hDepth

/-- Closing braces before the first opening one find nothing on the stack. -/
theorem Keeps.skip {stack : List Nat} {gap rest : List Brace} (h : Keeps stack (gap ++ rest))
    (hGap : ∀ brace ∈ gap, brace.isOpening = false) :
    stackAfter stack gap = stack ∧ pairs stack gap = [] ∧ Keeps stack rest := by
  induction gap with
  | nil => exact ⟨rfl, rfl, h⟩
  | cons brace gap ih =>
      cases brace with
      | opening o => simp [isOpening] at hGap
      | closing c =>
          rcases h with rfl | hDepth
          · exact ih (keeps_nil _) fun brace hBrace => hGap brace (List.mem_cons_of_mem _ hBrace)
          · simp [depthAfter] at hDepth

theorem stackAfter_of_closing {braces : List Brace}
    (h : ∀ brace ∈ braces, brace.isOpening = false) : stackAfter [] braces = [] :=
  ((keeps_nil (braces ++ [])).skip h).1

/-- Every pair that such a run completes was opened by the run itself. -/
theorem Keeps.opening_of_mem_pairs {stack : List Nat} {braces : List Brace} {pair : Nat × Nat}
    (h : Keeps stack braces) (hPair : pair ∈ pairs stack braces) : opening pair.1 ∈ braces := by
  rcases h with rfl | hDepth
  · simpa using (mem_of_mem_pairs hPair).1
  · simpa using Brace.opening_of_mem_pairs [] stack hDepth hPair

theorem Keeps.offset_bounds {stack : List Nat} {mode : Mode} {start : Nat} {text : List Char}
    {pair : Nat × Nat} (h : Keeps stack (ofText mode start text))
    (hPair : pair ∈ pairs stack (ofText mode start text)) :
    start ≤ pair.1 ∧ pair.1 < start + Text.byteLength text :=
  Brace.offset_bounds (h.opening_of_mem_pairs hPair)

end Brace
end ObjectOutline
