/-
Objects of the cluster as JSON trees.

* `Object.require`: a value that has to be an object.
* `Object.lookup`: the value at the end of a path of field names.
* `Object.intAt`, `Object.textAt`, `Object.mapAt`, `Object.listAt`: the same for a value of one
  shape; a value of another shape counts as missing.
* `Object.annotations`, `Object.owners`, `Object.deletionTimestamp`, `Object.key`: what the
  program reads from an object's metadata.
* `Object.deletionObstacle?`: what keeps the time of a deletion from being shown.
-/
import Driftwatch.Owner

namespace Driftwatch.Object

/-- A value that has to be an object of the cluster. -/
def require (j : Json) : Except Failure Json :=
  if j.isObject then .ok j else .error (.unreadableObject j.shapeName)

/-! ### Paths -/

/-- The value at the end of a path of field names. -/
def lookup (j : Json) : List String → Option Json
  | [] => some j
  | name :: path =>
    match j.get? name with
    | some next => lookup next path
    | none => none

/-- The integer at the end of a path.  Truth values and floating-point numbers are not
integers. -/
def intAt (j : Json) (path : List String) : Option Int :=
  match lookup j path with
  | some (.int n) => some n
  | _ => none

/-- The text at the end of a path. -/
def textAt (j : Json) (path : List String) : Option String :=
  match lookup j path with
  | some (.text s) => some s
  | _ => none

/-- The object at the end of a path, or one without fields. -/
def mapAt (j : Json) (path : List String) : Json :=
  match lookup j path with
  | some (.object fields) => .object fields
  | _ => .object []

/-- The list at the end of a path, or the empty one. -/
def listAt (j : Json) (path : List String) : List Json :=
  match lookup j path with
  | some (.list items) => items
  | _ => []

/-! ### Metadata -/

/-- The name of an object, empty if it has none. -/
def name (obj : Json) : String :=
  (textAt obj ["metadata", "name"]).getD ""

/-- The namespace of an object, empty if it has none. -/
def namespaceName (obj : Json) : String :=
  (textAt obj ["metadata", "namespace"]).getD ""

/-- A field with a text, as a pair of texts. -/
def textField : String × Json → Option (String × String)
  | (name, .text s) => some (name, s)
  | _ => none

/-- The annotations of an object.  Values that are not texts are left out. -/
def annotations (obj : Json) : List (String × String) :=
  (mapAt obj ["metadata", "annotations"]).fields.filterMap textField

/-- The text of an annotation, empty if the object does not have it. -/
def annotationText (obj : Json) (name : String) : String :=
  match (mapAt obj ["metadata", "annotations"]).get? name with
  | some (.text s) => s
  | _ => ""

/-- The owners of an object.  References that are not objects are left out. -/
def owners (obj : Json) : List Owner :=
  ((listAt obj ["metadata", "ownerReferences"]).filter Json.isObject).map Owner.ofJson

/-- The time at which the deletion of an object was asked for, if it was; whatever stands there
is shown as a text. -/
def deletionTimestamp (obj : Json) : Option String :=
  match lookup obj ["metadata", "deletionTimestamp"] with
  | none | some .null => none
  | some value => some value.plain

/-- What keeps the time of the deletion from being shown, if anything does. -/
def deletionObstacle? (room : Nat) (obj : Json) : Option Json.Obstacle :=
  match lookup obj ["metadata", "deletionTimestamp"] with
  | none => none
  | some value => value.obstacle? room

/-- The key that an object goes by: its kind, namespace and name. -/
def key (obj : Json) : String :=
  let kind := obj.getOrNull "kind"
  let kindText := if kind.isFalsy then "Object" else kind.plain
  kindText ++ "/" ++ namespaceName obj ++ "/" ++ name obj

end Driftwatch.Object
