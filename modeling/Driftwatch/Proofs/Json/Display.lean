/-
JSON values that can be shown.

* `IsShort`: an integer that is not too long to be written in digits.
* `IsShowable`: a value that is not nested more deeply than there is room for, with such integers
  only.
* `obstacle?_eq_none_iff`: these are the values that nothing keeps from being shown.
-/
import Driftwatch.Json.Display
import Mathlib.Tactic.Lemma

namespace Driftwatch.Json

/-- The integer has no more digits than can be written or read. -/
def IsShort (n : Int) : Prop :=
  (Nat.toDigits 10 n.natAbs).length ≤ Decimal.longestInteger

/-- A value has no more lists and objects within one another than there is room for, but for a last
one that is empty, and only integers that are not too long. -/
inductive IsShowable : (room : Nat) → Json → Prop
  | null {room : Nat} : IsShowable room .null
  | bool {room : Nat} (b : Bool) : IsShowable room (.bool b)
  | int {room : Nat} {n : Int} (short : IsShort n) : IsShowable room (.int n)
  | float {room : Nat} (x : Float) : IsShowable room (.float x)
  | text {room : Nat} (s : String) : IsShowable room (.text s)
  | emptyList {room : Nat} : IsShowable room (.list [])
  | list {room : Nat} {items : List Json} (shown : ∀ j ∈ items, IsShowable room j) :
      IsShowable (room + 1) (.list items)
  | emptyObject {room : Nat} : IsShowable room (.object [])
  | object {room : Nat} {fields : List (String × Json)}
      (shown : ∀ p ∈ fields, IsShowable room p.2) : IsShowable (room + 1) (.object fields)
  | foreign {room : Nat} (v : Foreign) : IsShowable room (.foreign v)

/-- An integer is too long if it has too many digits. -/
lemma isLong_eq_false_iff {n : Int} : isLong n = false ↔ IsShort n := by
  have positive : 0 < Decimal.longestInteger := by decide
  rw [isLong, IsShort, decide_eq_false_iff_not, Nat.not_le]
  -- the power is too large to be worked out
  generalize Decimal.longestInteger = k at positive ⊢
  exact (Nat.length_toDigits_le_iff (by decide) positive).symm

/-- A list is shown if it is empty, or if there is room for its items. -/
lemma isShowable_list_iff {room : Nat} {items : List Json} : IsShowable room (.list items) ↔
    items = [] ∨ ∃ room', room = room' + 1 ∧ ∀ j ∈ items, IsShowable room' j := by
  constructor
  · rintro (_ | _ | _ | _ | _ | _ | shown)
    · exact .inl rfl
    · exact .inr ⟨_, rfl, shown⟩
  · rintro (rfl | ⟨room', rfl, shown⟩)
    · exact .emptyList
    · exact .list shown

/-- An object is shown if it is empty, or if there is room for its fields. -/
lemma isShowable_object_iff {room : Nat} {fields : List (String × Json)} :
    IsShowable room (.object fields) ↔
      fields = [] ∨ ∃ room', room = room' + 1 ∧ ∀ p ∈ fields, IsShowable room' p.2 := by
  constructor
  · intro h
    cases h with
    | emptyObject => exact .inl rfl
    | object shown => exact .inr ⟨_, rfl, shown⟩
  · rintro (rfl | ⟨room', rfl, shown⟩)
    · exact .emptyObject
    · exact .object shown

mutual

/-- **What can be shown.**  Nothing keeps a value from being shown exactly if it is not nested more
deeply than there is room for and has no integer that is too long. -/
theorem obstacle?_eq_none_iff (room : Nat) :
    (j : Json) → (obstacle? room j = none ↔ IsShowable room j)
  | .null => by simp [obstacle?, IsShowable.null]
  | .bool b => by simp [obstacle?, IsShowable.bool]
  | .int n => by
      rw [obstacle?]
      refine Iff.trans ?_ (isLong_eq_false_iff.trans ⟨.int, fun h => by cases h; assumption⟩)
      cases isLong n <;> simp
  | .float x => by simp [obstacle?, IsShowable.float]
  | .text s => by simp [obstacle?, IsShowable.text]
  | .list items => by
      rw [obstacle?, isShowable_list_iff]
      exact itemsObstacle?_eq_none_iff room items
  | .object fields => by
      rw [obstacle?, isShowable_object_iff]
      exact fieldsObstacle?_eq_none_iff room fields
  | .foreign v => by simp [obstacle?, IsShowable.foreign]

theorem itemsObstacle?_eq_none_iff (room : Nat) : (items : List Json) →
    (itemsObstacle? room items = none ↔
      items = [] ∨ ∃ room', room = room' + 1 ∧ ∀ j ∈ items, IsShowable room' j)
  | [] => by simp [itemsObstacle?]
  | x :: xs => by
      cases room with
      | zero => simp [itemsObstacle?]
      | succ room =>
          have first := obstacle?_eq_none_iff room x
          have others := itemsObstacle?_eq_none_iff (room + 1) xs
          rw [itemsObstacle?, Option.or_eq_none_iff, first, others]
          cases xs <;> simp

theorem fieldsObstacle?_eq_none_iff (room : Nat) : (fields : List (String × Json)) →
    (fieldsObstacle? room fields = none ↔
      fields = [] ∨ ∃ room', room = room' + 1 ∧ ∀ p ∈ fields, IsShowable room' p.2)
  | [] => by simp [fieldsObstacle?]
  | (k, x) :: fields => by
      cases room with
      | zero => simp [fieldsObstacle?]
      | succ room =>
          have first := obstacle?_eq_none_iff room x
          have others := fieldsObstacle?_eq_none_iff (room + 1) fields
          rw [fieldsObstacle?, Option.or_eq_none_iff, first, others]
          cases fields <;> simp

end

end Driftwatch.Json
