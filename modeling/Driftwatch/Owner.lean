/-
Owner references.

* `Owner`: a reference from an object to one that owns it.
* `Owner.ofJson`: the reference as it stands in an object's metadata.
* `Owner.controller?`: the owner that controls the object.
-/
import Driftwatch.Failure

namespace Driftwatch

/-- A reference to an owner. -/
structure Owner where
  apiVersion : String
  kind : String
  name : String
  uid : String
  /-- The owner manages the object. -/
  isController : Bool
  deriving DecidableEq

namespace Owner

/-- The owner that a value describes.  Parts that are missing or not texts are empty, and the
owner is the controller only if the value says exactly `true`. -/
def ofJson (j : Json) : Owner :=
  { apiVersion := (j.getOrNull "apiVersion").textOrEmpty
    kind := (j.getOrNull "kind").textOrEmpty
    name := (j.getOrNull "name").textOrEmpty
    uid := (j.getOrNull "uid").textOrEmpty
    isController := decide (j.getOrNull "controller" = .bool true) }

/-- The owner that a value describes, which has to be an object. -/
def read (j : Json) : Except Failure Owner :=
  if j.isObject then .ok (ofJson j) else .error (.lacking j.shapeName "get")

/-- The first of the owners that is flagged as the controller. -/
def controller? (owners : List Owner) : Option Owner :=
  owners.find? isController

end Owner

end Driftwatch
