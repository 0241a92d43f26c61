/-
Snapshots of parents.

* `Parent.State`: what a decision depends on: the generation that is asked for and the one
  that was caught up with, who controls the parent, and how far its life has come.
* `Parent.State.ofObject`: the snapshot of an object that an owner reference led to, once it is
  known who owns its stamp.
* `Parent.State.extract`: the way there, on which the stack may end.
* `Parent.State.notices`: what is logged while the snapshot is taken.
-/
import Driftwatch.Fingerprint.Roster
import Driftwatch.Parent.Condition
import Driftwatch.Parent.Ref
import Driftwatch.Provenance

namespace Driftwatch.Parent

/-- The causally relevant state of a parent. -/
structure State where
  ref : Ref
  generation : Int
  observed : Stamp
  /-- Who owns the stamp: a name, empty if it is not known. -/
  controllerManager : Json
  /-- The fingerprints of those who updated the status. -/
  controllers : List String
  deletionTimestamp : Option String
  conditions : List Condition
  /-- The parent is recorded as initialized. -/
  isInitialized : Bool
  /-- The recorded phase. -/
  phaseText : String
  deriving DecidableEq

namespace State

/-- The deletion of the parent was asked for. -/
def isDeleting (s : State) : Bool :=
  s.deletionTimestamp.isSome

/-- The managed-fields entries of an object. -/
def managedFields (obj : Json) : List Provenance.Entry :=
  Provenance.entries (Object.listAt obj ["metadata", "managedFields"])

/-- The snapshot of an object that an owner reference led to, with the owner of its stamp. -/
def ofObject (obj : Json) (owner : Owner) (manager : Json) : State :=
  let status := Object.mapAt obj ["status"]
  let phaseText := Object.annotationText obj Vocabulary.phase
  { ref :=
      { apiVersion := owner.apiVersion
        kind := owner.kind
        namespaceName := Object.namespaceName obj
        name := owner.name }
    generation := (Object.intAt obj ["metadata", "generation"]).getD 0
    observed := .ofStatus status
    controllerManager := manager
    controllers := Roster.parse (Object.annotationText obj Vocabulary.controllers)
    deletionTimestamp := Object.deletionTimestamp obj
    conditions := Condition.ofStatus status
    isInitialized := phaseText == Vocabulary.initialized
    phaseText := phaseText }

/-- The snapshot is taken: the owner of the stamp is looked for, and the time of the deletion is
shown. -/
def extract (room : Room) (obj : Json) (owner : Owner) : Except Failure State := do
  let manager ← Provenance.manager room (managedFields obj)
  match Object.deletionObstacle? room.time obj with
  | some obstacle => throw (.unshowable obstacle)
  | none => return ofObject obj owner manager

/-- What is logged while the snapshot is taken. -/
def notices (room : Room) (obj : Json) : List Log.Entry :=
  List.replicate (Provenance.malformedCount room (managedFields obj)) Provenance.malformedNotice

end State

end Driftwatch.Parent
