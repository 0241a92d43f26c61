/-
Requests to record something on an object.

* `Target`: where an object is read from and written to.
* `Request`: a value for an annotation of an object.
* `Request.controller`, `Request.phase`: what is asked for when an actor updates the status of
  an object and when a phase is reached; nothing, if it is recorded already.
* `annotationsWith`: the annotations of an object with one more fingerprint in a roster.
-/
import Driftwatch.Fingerprint.Basic
import Driftwatch.Fingerprint.Roster
import Driftwatch.Ledger.Pending
import Driftwatch.Log
import Driftwatch.Object.Basic

namespace Driftwatch

/-- Where an object is read from and written to. -/
structure Target where
  apiVersion : Json
  kind : Json
  name : String
  namespaceName : String
  deriving DecidableEq

/-- The place of an object. -/
def Target.of (obj : Json) : Target :=
  { apiVersion := (obj.get? "apiVersion").getD (.text "")
    kind := (obj.get? "kind").getD (.text "")
    name := Object.name obj
    namespaceName := Object.namespaceName obj }

/-- A value for an annotation of an object. -/
structure Request where
  key : String
  target : Target
  slot : Slot
  value : String
  deriving DecidableEq

namespace Request

/-- The request to give an annotation of an object a value. -/
def of (obj : Json) (slot : Slot) (value : String) : Request :=
  { key := Object.key obj, target := Target.of obj, slot, value }

/-- The log line about a fingerprint that is there already. -/
def recordedNotice (obj : Json) (fingerprint : String) : Log.Entry :=
  { level := .debug
    message := "Controller hash " ++ fingerprint ++ " already recorded on " ++ Object.key obj }

/-- What is asked for when an actor updates the status of an object. -/
def controller (obj : Json) (actor : String) : Option Request :=
  let fingerprint := Fingerprint.ofIdentity actor
  if fingerprint ∈ Roster.parse (Object.annotationText obj Vocabulary.controllers) then none
  else some (.of obj .controllers fingerprint)

/-- What is asked for when an object reaches a phase.  Deletion is read off the object and never
recorded, and an initialization is never taken back. -/
def phase (obj : Json) (phase : String) : Option Request :=
  let current := Object.annotationText obj Vocabulary.phase
  if (Object.deletionTimestamp obj).isSome then none
  else if current = Vocabulary.initialized ∨ current = phase then none
  else some (.of obj .phase phase)

end Request

/-! ### Annotations for a response -/

/-- The annotations with one of them given a value, in its place or at the end. -/
def giveText (name value : String) : List (String × String) → List (String × String)
  | [] => [(name, value)]
  | (k, v) :: rest =>
    if k = name then (k, value) :: rest else (k, v) :: giveText name value rest

/-- The annotations of an object with one more fingerprint in the roster of the given name. -/
def annotationsWith (obj : Json) (name : String) (limit : Int) (actor : String) :
    List (String × String) :=
  let roster := Roster.parse (Object.annotationText obj name)
  giveText name
    (Roster.join (Roster.append limit roster (Fingerprint.ofIdentity actor)))
    (Object.annotations obj)

/-- The annotations of a child with the fingerprint of an actor who changes it. -/
def annotationsOfUpdate (obj : Json) (limit : Int) (actor : String) : List (String × String) :=
  annotationsWith obj Vocabulary.updaters limit actor

/-- The annotations of a parent with the fingerprint of an actor who updates its status. -/
def annotationsOfStatusUpdate (obj : Json) (limit : Int) (actor : String) :
    List (String × String) :=
  annotationsWith obj Vocabulary.controllers limit actor

/-- The fingerprints of those who changed a child. -/
def updaters (obj : Json) : List String :=
  Roster.parse (Object.annotationText obj Vocabulary.updaters)

end Driftwatch
