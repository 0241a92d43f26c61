/-
The table of pending annotation writes.

* `Slot`, `Batch`: what is to be written to one object: for each annotation the values that
  were asked for, in order of arrival and without repetitions.
* `Ledger`: the batch of each object that has one, and the objects whose batches some flush has
  undertaken to write.
* `Ledger.submit`, `Ledger.take`, `Ledger.abandon`: the three operations on the table; each of
  them is atomic.
-/
import Driftwatch.Json.Display
import Driftwatch.Vocabulary

namespace Driftwatch

/-- The annotations that are written. -/
inductive Slot
  /-- The fingerprints of those who updated the status. -/
  | controllers
  /-- The recorded lifecycle phase. -/
  | phase
  deriving DecidableEq

/-- The name of an annotation. -/
def Slot.name : Slot → String
  | .controllers => Vocabulary.controllers
  | .phase => Vocabulary.phase

/-- The values to be written to one object. -/
abbrev Batch := List (Slot × List String)

namespace Batch

/-- The values for an annotation. -/
def values (b : Batch) (slot : Slot) : List String :=
  (b.lookup slot).getD []

/-- A value after others, unless it is among them. -/
def arrive (values : List String) (value : String) : List String :=
  if value ∈ values then values else values ++ [value]

/-- A batch with one more value for an annotation. -/
def add (slot : Slot) (value : String) : Batch → Batch
  | [] => [(slot, [value])]
  | (s, values) :: rest =>
    if s = slot then (s, arrive values value) :: rest else (s, values) :: add slot value rest

/-- The batch as it is shown in a log line. -/
def display (b : Batch) : String :=
  (Json.object (b.map fun p => (p.1.name, .list (p.2.map Json.text)))).display

/-- The values for the annotation are those before with the new one; the values for all other
annotations stay. -/
theorem values_add (slot other : Slot) (value : String) (b : Batch) :
    values (add slot value b) other =
      if other = slot then arrive (values b slot) value else values b other := by
  induction b with
  | nil =>
    by_cases h : other = slot
    · simp [values, add, arrive, h]
    · simp [values, add, List.lookup_cons, h, beq_eq_false_iff_ne.mpr h]
  | cons p rest ih =>
    obtain ⟨s, vs⟩ := p
    by_cases hs : s = slot
    · subst hs
      by_cases h : other = s
      · simp [values, add, h]
      · simp [values, add, List.lookup_cons, h, beq_eq_false_iff_ne.mpr h]
    · by_cases h : other = s
      · subst h
        simp [values, add, hs]
      · simp only [values] at ih
        simp [values, add, List.lookup_cons, hs, beq_eq_false_iff_ne.mpr h, ih,
          beq_eq_false_iff_ne.mpr (Ne.symm hs)]

end Batch

/-- The pending writes, by the keys of objects. -/
structure Ledger where
  pending : List (String × Batch)
  /-- The keys whose batches a flush has undertaken to write. -/
  active : List String
  deriving DecidableEq

namespace Ledger

/-- The table without entries. -/
def empty : Ledger := { pending := [], active := [] }

/-- The batch of a key. -/
def batch? (l : Ledger) (key : String) : Option Batch :=
  l.pending.lookup key

/-- The entries with a batch put in the place of the one of a key, or at the end. -/
def setBatch (key : String) (batch : Batch) : List (String × Batch) → List (String × Batch)
  | [] => [(key, batch)]
  | (k, b) :: rest =>
    if k = key then (k, batch) :: rest else (k, b) :: setBatch key batch rest

/-- One more value for an annotation of an object.  The answer tells whether a flush has to be
started; otherwise one that is under way will see to the value. -/
def submit (l : Ledger) (key : String) (slot : Slot) (value : String) : Bool × Ledger :=
  let batch := ((l.batch? key).getD []).add slot value
  let pending := setBatch key batch l.pending
  if key ∈ l.active then (false, { l with pending })
  else (true, { pending, active := key :: l.active })

/-- The key without its mark. -/
def abandon (l : Ledger) (key : String) : Ledger :=
  { l with active := l.active.filter (· ≠ key) }

/-- The batch of a key, which leaves the table.  If there is none the flush is over, and the
key loses its mark. -/
def take (l : Ledger) (key : String) : Option Batch × Ledger :=
  match l.batch? key with
  | some (p :: rest) =>
    (some (p :: rest), { l with pending := l.pending.filter fun q => q.1 ≠ key })
  | _ => (none, { l.abandon key with pending := l.pending.filter fun q => q.1 ≠ key })

/-! ### What the operations do to the table -/

/-- A batch that was put in is found under its key, and all others as before. -/
theorem lookup_setBatch (key other : String) (batch : Batch) (entries : List (String × Batch)) :
    (setBatch key batch entries).lookup other =
      if other = key then some batch else entries.lookup other := by
  induction entries with
  | nil =>
    by_cases h : other = key
    · simp [setBatch, h]
    · simp [setBatch, List.lookup_cons, h, beq_eq_false_iff_ne.mpr h]
  | cons e rest ih =>
    obtain ⟨k, b⟩ := e
    by_cases hk : k = key
    · subst hk
      by_cases h : other = k
      · simp [setBatch, h]
      · simp [setBatch, List.lookup_cons, h, beq_eq_false_iff_ne.mpr h]
    · rw [setBatch, if_neg hk]
      by_cases h : other = k
      · subst h
        simp [hk]
      · simp [List.lookup_cons, beq_eq_false_iff_ne.mpr h, ih]

/-- The batches of other keys are found after some were dropped. -/
theorem lookup_filter_ne (key other : String) (entries : List (String × Batch)) :
    (entries.filter fun q => q.1 ≠ key).lookup other =
      if other = key then none else entries.lookup other := by
  induction entries with
  | nil => simp
  | cons e rest ih =>
    obtain ⟨k, b⟩ := e
    by_cases hk : k = key
    · subst hk
      by_cases h : other = k
      · simp [h] at ih ⊢
        exact ih
      · simp [List.lookup_cons, h, beq_eq_false_iff_ne.mpr h] at ih ⊢
        exact ih
    · by_cases h : other = k
      · subst h
        simp [hk]
      · simp [List.lookup_cons, hk, beq_eq_false_iff_ne.mpr h] at ih ⊢
        exact ih

/-- A request changes the batch of its own key only. -/
theorem batch?_submit (l : Ledger) (key other : String) (slot : Slot) (value : String) :
    (l.submit key slot value).2.batch? other =
      if other = key then some (((l.batch? key).getD []).add slot value)
      else l.batch? other := by
  by_cases h : key ∈ l.active <;> simp [submit, batch?, h, lookup_setBatch]

/-- A request marks its own key. -/
theorem mem_active_submit (l : Ledger) (key other : String) (slot : Slot) (value : String) :
    other ∈ (l.submit key slot value).2.active ↔ other = key ∨ other ∈ l.active := by
  by_cases h : key ∈ l.active
  · simp only [submit, h, if_true]
    exact ⟨Or.inr, fun hm => hm.elim (fun he => he ▸ h) id⟩
  · simp [submit, h]

/-- A flush has to be started exactly for a key without a mark. -/
theorem submit_starts_iff (l : Ledger) (key : String) (slot : Slot) (value : String) :
    (l.submit key slot value).1 = true ↔ key ∉ l.active := by
  by_cases h : key ∈ l.active <;> simp [submit, h]

/-- Abandoning a key takes its mark and leaves all batches. -/
theorem mem_active_abandon (l : Ledger) (key other : String) :
    other ∈ (l.abandon key).active ↔ other ≠ key ∧ other ∈ l.active := by
  simp [abandon, and_comm]

/-- Taking a batch changes the batch of its own key only. -/
theorem batch?_take (l : Ledger) (key other : String) :
    (l.take key).2.batch? other = if other = key then none else l.batch? other := by
  rw [take]
  split <;> exact lookup_filter_ne key other l.pending

/-- A batch that is taken leaves all marks. -/
theorem active_take_of_some {l : Ledger} {key : String} {batch : Batch}
    (h : (l.take key).1 = some batch) : (l.take key).2.active = l.active := by
  rw [take] at h ⊢
  split
  · rfl
  · rename_i none
    split at h
    · exact absurd ‹_› (none _ _)
    · simp at h

/-- A key that has no batch loses its mark. -/
theorem mem_active_take_of_none {l : Ledger} {key : String} (h : (l.take key).1 = none)
    (other : String) : other ∈ (l.take key).2.active ↔ other ≠ key ∧ other ∈ l.active := by
  rw [take] at h ⊢
  split
  · rename_i some
    rw [some] at h
    simp at h
  · exact l.mem_active_abandon key other

/-- The batch that is taken holds the values that were pending. -/
theorem values_take (l : Ledger) (key : String) (slot : Slot) :
    ((l.take key).1.getD []).values slot = ((l.batch? key).getD []).values slot := by
  rw [take]
  split
  · rename_i some
    simp [some]
  · rename_i none
    rcases h : l.batch? key with _ | _ | ⟨p, rest⟩
    · rfl
    · rfl
    · exact absurd h (none p rest)

end Ledger

end Driftwatch
