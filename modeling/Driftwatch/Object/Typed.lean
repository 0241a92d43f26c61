/-
Objects built from typed models.

* `Object.Source`: a JSON tree, or a model whose fields have names in snake case.
* `Source.tree`: the JSON tree of a source: field names in camel case, fields without a value
  left out, times as texts.
* `Source.held`: the value of a source as it stands in a free mapping, where models and times
  stay what they are.
* `Source.read`: the tree of a source that has to be an object.  A free mapping is taken as it
  is; only a model is turned into a tree all the way down.
-/
import Driftwatch.Object.Basic
import Driftwatch.Object.FieldName
import Driftwatch.Timestamp.Basic

namespace Driftwatch.Object

/-- What an object is built from. -/
inductive Source
  /-- A JSON value. -/
  | value (j : Json)
  | time (t : Timestamp)
  | list (items : List Source)
  /-- A free mapping from names to sources. -/
  | mapping (entries : List (String × Source))
  /-- A typed model with its name and its fields. -/
  | model (name : String) (fields : List (String × Source))
  deriving Inhabited

namespace Source

mutual

/-- The JSON tree of a source. -/
def tree : Source → Json
  | .value j => j
  | .time t => .text (t.text "T")
  | .list items => .list (trees items)
  | .mapping entries => .object (entryTrees entries)
  | .model name fields => .object (fieldTrees name fields)

/-- The JSON trees of a list of sources. -/
def trees : List Source → List Json
  | [] => []
  | s :: rest => tree s :: trees rest

/-- The fields of a mapping, under their own names. -/
def entryTrees : List (String × Source) → List (String × Json)
  | [] => []
  | (name, s) :: rest => (name, tree s) :: entryTrees rest

/-- The fields of a model: those that have a value, under the names that they have in a tree. -/
def fieldTrees (model : String) : List (String × Source) → List (String × Json)
  | [] => []
  | (_, .value .null) :: rest => fieldTrees model rest
  | (name, s) :: rest => (fieldName model name, tree s) :: fieldTrees model rest

end

/-- A point in time in the place of a JSON value. -/
def heldTime (t : Timestamp) : Json :=
  .foreign { shape := "datetime", plain := t.text " ", quoted := t.call }

/-- A model in the place of a JSON value; it is shown by its tree. -/
def heldModel (name : String) (fields : List (String × Source)) : Json :=
  let shown := (Json.object (fieldTrees name fields)).display
  .foreign { shape := name, plain := shown, quoted := shown }

mutual

/-- The value of a source as it stands in a free mapping. -/
def held : Source → Json
  | .value j => j
  | .time t => heldTime t
  | .list items => .list (heldItems items)
  | .mapping entries => .object (heldEntries entries)
  | .model name fields => heldModel name fields

/-- The items of a list as they stand in a free mapping. -/
def heldItems : List Source → List Json
  | [] => []
  | s :: rest => held s :: heldItems rest

/-- The entries of a free mapping. -/
def heldEntries : List (String × Source) → List (String × Json)
  | [] => []
  | (name, s) :: rest => (name, held s) :: heldEntries rest

end

/-- The source of a point in time that is given as a text. -/
def ofTime (s : String) : Except Failure Source :=
  match Timestamp.read s with
  | .ok t => .ok (.time t)
  | .error e => .error (.unreadableTime e)

/-- The word for the shape of a source. -/
def shapeName : Source → String
  | .value j => j.shapeName
  | .time _ => "datetime"
  | .list _ => "list"
  | .mapping _ => "dict"
  | .model name _ => name

/-- The tree of a source that has to be an object. -/
def read : Source → Except Failure Json
  | .mapping entries => .ok (.object (heldEntries entries))
  | s => if s.tree.isObject then .ok s.tree else .error (.unreadableObject s.shapeName)

end Source

end Driftwatch.Object
