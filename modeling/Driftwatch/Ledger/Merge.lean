/-
Folding a batch into an object.

* `Merge.fingerprints`, `Merge.phase`: the new value of each annotation.
* `Merge.changes`: the annotations that get a new value.
* `Merge.annotate`: an object with annotations given values; everything else stays as it is.
* `Merge.apply`: the object with the batch folded in, or nothing if that changes nothing.
-/
import Driftwatch.Fingerprint.Roster
import Driftwatch.Ledger.Pending
import Driftwatch.Object.Basic

namespace Driftwatch.Merge

/-- A roster with fingerprints appended one after the other. -/
def fingerprints (limit : Int) (roster arrivals : List String) : List String :=
  arrivals.foldl (Roster.append limit) roster

/-- The phase after others were recorded on top of it; nothing follows on an initialized one. -/
def phase (current : String) (arrivals : List String) : String :=
  arrivals.foldl (fun p next => if p = Vocabulary.initialized then p else next) current

/-- The new value of the controllers annotation, if it changes. -/
def controllersChange (limit : Int) (obj : Json) (batch : Batch) : Option String :=
  let roster := Roster.parse (Object.annotationText obj Vocabulary.controllers)
  let merged := fingerprints limit roster (batch.values .controllers)
  if merged = roster then none else some (Roster.join merged)

/-- The new value of the phase annotation, if it changes. -/
def phaseChange (obj : Json) (batch : Batch) : Option String :=
  let current := Object.annotationText obj Vocabulary.phase
  let merged := phase current (batch.values .phase)
  if merged = current then none else some merged

/-- The annotations that get a new value, with that value. -/
def changes (limit : Int) (obj : Json) (batch : Batch) : List (String × String) :=
  (controllersChange limit obj batch).toList.map (Vocabulary.controllers, ·) ++
    (phaseChange obj batch).toList.map (Vocabulary.phase, ·)

/-- The fields with texts given to some of them. -/
def setTexts (fields : List (String × Json)) (changes : List (String × String)) :
    List (String × Json) :=
  changes.foldl (fun fs c => Json.setField c.1 (.text c.2) fs) fields

/-- The annotations of an object's metadata, which have to be fields; missing or falsy ones are
no annotations. -/
def annotationFields (metadata : Json) : Except Failure (List (String × Json)) :=
  match metadata.getOrNull "annotations" with
  | .object fields => .ok fields
  | other => if other.isFalsy then .ok [] else .error (.lacking other.shapeName "update")

/-- The metadata of an object, which has to be an object itself; missing metadata has no
fields. -/
def metadataOf (obj : Json) : Except Failure Json :=
  if obj.isObject then
    let metadata := (obj.get? "metadata").getD (.object [])
    if metadata.isObject then .ok metadata else .error (.lacking metadata.shapeName "get")
  else .error (.lacking obj.shapeName "setdefault")

/-- The object with annotations given values. -/
def annotate (obj : Json) (changes : List (String × String)) : Except Failure Json :=
  match metadataOf obj with
  | .error e => .error e
  | .ok metadata =>
    match annotationFields metadata with
    | .error e => .error e
    | .ok fields =>
      .ok (obj.set "metadata" (metadata.set "annotations" (.object (setTexts fields changes))))

/-- The object with the batch folded in, or nothing if that changes nothing. -/
def apply (limit : Int) (obj : Json) (batch : Batch) : Except Failure (Option Json) :=
  match changes limit obj batch with
  | [] => .ok none
  | cs =>
    match annotate obj cs with
    | .ok updated => .ok (some updated)
    | .error e => .error e

end Driftwatch.Merge
