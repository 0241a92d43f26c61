/-
Searches through lists, where looking at an item may fail.

* `Search.Reaches`: a list is gone through as far as an item.
* `Search.anyM_eq_iff`, `Search.anyM_eq_false_iff`: the item that the answer to a search rests on.
* `Search.findM?_eq_some_iff`, `Search.findM?_eq_error_iff`, `Search.findM?_eq_none_iff`: the item
  that is found, or that the search fails at.
-/
import Mathlib.Tactic.Lemma

namespace Driftwatch.Search

section

variable {α : Type} {passed : α → Prop} {xs : List α}

/-- A list is gone through as far as an item: all those before it are passed. -/
def Reaches (passed : α → Prop) (xs : List α) (x : α) : Prop :=
  ∃ before after, xs = before ++ x :: after ∧ ∀ b ∈ before, passed b

lemma not_reaches_nil (passed : α → Prop) (x : α) : ¬ Reaches passed [] x := by
  rintro ⟨before, after, parts, -⟩
  simp at parts

/-- A list is gone through as far as the first item, and further on if that is passed. -/
lemma reaches_cons {x y : α} :
    Reaches passed (y :: xs) x ↔ x = y ∨ passed y ∧ Reaches passed xs x := by
  constructor
  · rintro ⟨before, after, parts, earlier⟩
    cases before with
    | nil => exact .inl (List.cons.inj parts).1.symm
    | cons b before =>
        obtain ⟨rfl, rfl⟩ := List.cons.inj parts
        obtain ⟨first, others⟩ := List.forall_mem_cons.mp earlier
        exact .inr ⟨first, before, after, rfl, others⟩
  · rintro (rfl | ⟨first, before, after, rfl, others⟩)
    · exact ⟨[], xs, rfl, by simp⟩
    · exact ⟨y :: before, after, rfl, List.forall_mem_cons.mpr ⟨first, others⟩⟩

/-- What holds of an item that is reached holds of the first one, or of a later one if the first
one is passed. -/
lemma exists_reaches_cons {P : α → Prop} {y : α} :
    (∃ x, Reaches passed (y :: xs) x ∧ P x) ↔
      P y ∨ passed y ∧ ∃ x, Reaches passed xs x ∧ P x := by
  simp only [reaches_cons, or_and_right, exists_or, exists_eq_left, and_assoc, exists_and_left]

/-- An item that is reached is one of the list. -/
lemma Reaches.mem {x : α} (h : Reaches passed xs x) : x ∈ xs := by
  obtain ⟨before, after, rfl, -⟩ := h
  simp

end

variable {α ε : Type} {f : α → Except ε Bool} {xs : List α}

/-! ### Is there such an item? -/

/-- The answer to a search, if it is not that there is no such item, is that to the first item that
is not passed. -/
lemma anyM_eq_iff {r : Except ε Bool} (ends : r ≠ .ok false) :
    xs.anyM f = r ↔ ∃ x, Reaches (f · = .ok false) xs x ∧ f x = r := by
  induction xs with
  | nil => simp [not_reaches_nil, pure, Except.pure, Ne.symm ends]
  | cons y ys ih =>
      rw [List.anyM, exists_reaches_cons]
      rcases first : f y with e | _ | _
      · simp [bind, Except.bind]
      · simp [bind, Except.bind, ih, Ne.symm ends]
      · simp [bind, Except.bind, pure, Except.pure]

/-- There is no such item if all are passed. -/
lemma anyM_eq_false_iff : xs.anyM f = .ok false ↔ ∀ x ∈ xs, f x = .ok false := by
  induction xs with
  | nil => simp [pure, Except.pure]
  | cons y ys ih =>
      rw [List.anyM, List.forall_mem_cons]
      rcases first : f y with e | _ | _
      · simp [bind, Except.bind]
      · simp [bind, Except.bind, ih]
      · simp [bind, Except.bind, pure, Except.pure]

/-! ### Which is the first such item? -/

/-- The item that is found. -/
lemma findM?_eq_some_iff {x : α} :
    xs.findM? f = .ok (some x) ↔ Reaches (f · = .ok false) xs x ∧ f x = .ok true := by
  induction xs with
  | nil => simp [not_reaches_nil, pure, Except.pure]
  | cons y ys ih =>
      have same : x = y ∧ f x = .ok true ↔ x = y ∧ f y = .ok true :=
        and_congr_right (by rintro rfl; rfl)
      rw [List.findM?, reaches_cons, or_and_right, and_assoc, same]
      rcases first : f y with e | _ | _
      · simp [bind, Except.bind]
      · simp [bind, Except.bind, ih]
      · simp [bind, Except.bind, pure, Except.pure, eq_comm]

/-- The item that a search fails at. -/
lemma findM?_eq_error_iff {e : ε} :
    xs.findM? f = .error e ↔ ∃ x, Reaches (f · = .ok false) xs x ∧ f x = .error e := by
  induction xs with
  | nil => simp [not_reaches_nil, pure, Except.pure]
  | cons y ys ih =>
      rw [List.findM?, exists_reaches_cons]
      rcases first : f y with e' | _ | _
      · simp [bind, Except.bind]
      · simp [bind, Except.bind, ih]
      · simp [bind, Except.bind, pure, Except.pure]

/-- Nothing is found if all are passed. -/
lemma findM?_eq_none_iff : xs.findM? f = .ok none ↔ ∀ x ∈ xs, f x = .ok false := by
  induction xs with
  | nil => simp [pure, Except.pure]
  | cons y ys ih =>
      rw [List.findM?, List.forall_mem_cons]
      rcases first : f y with e | _ | _
      · simp [bind, Except.bind]
      · simp [bind, Except.bind, ih]
      · simp [bind, Except.bind, pure, Except.pure]

end Driftwatch.Search
