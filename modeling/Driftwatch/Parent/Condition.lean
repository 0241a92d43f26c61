/-
Status conditions.

* `Condition`: a statement about one aspect of an object.
* `Condition.ofStatus`: the conditions in an object's status.
* `Condition.holds`, `Condition.find?`: looking a condition up by its type.
* `Stamp`, `Stamp.ofConditions`: the generation that a status says it has caught up with, taken
  from the conditions, which are gone through once (`Stamp.note`).
-/
import Driftwatch.Object.Basic
import Driftwatch.Vocabulary

namespace Driftwatch.Parent

/-- A statement about one aspect of an object. -/
structure Condition where
  type : String
  status : String
  reason : String
  message : String
  deriving DecidableEq

namespace Condition

/-- The condition that a value describes.  Parts that are missing or not texts are empty. -/
def ofJson (j : Json) : Condition :=
  { type := (j.getOrNull "type").textOrEmpty
    status := (j.getOrNull "status").textOrEmpty
    reason := (j.getOrNull "reason").textOrEmpty
    message := (j.getOrNull "message").textOrEmpty }

/-- The conditions of a status.  Those that are not objects are left out. -/
def ofStatus (status : Json) : List Condition :=
  ((Object.listAt status ["conditions"]).filter Json.isObject).map ofJson

/-- A condition of a type has a status. -/
def holds (conditions : List Condition) (type status : String) : Bool :=
  conditions.any fun c => c.type == type && c.status == status

/-- The first condition of a type. -/
def find? (conditions : List Condition) (type : String) : Option Condition :=
  conditions.find? fun c => c.type == type

end Condition

/-! ### Generation stamps -/

/-- The generation that a status says it has caught up with.  Without one the value has no
meaning. -/
structure Stamp where
  value : Int
  present : Bool
  deriving DecidableEq

namespace Stamp

/-- A stamp with or without a value. -/
def ofOption : Option Int → Stamp
  | some n => { value := n, present := true }
  | none => { value := 0, present := false }

/-- The stamps that were found among the conditions, by type. -/
abbrev Found := List (String × Int)

/-- The stamps that were found, and that of one more condition: stamps are looked for in some types
only, and the first one of a type stays. -/
def note (found : Found) (condition : Json) : Found :=
  match condition.getOrNull "type" with
  | .text type =>
    if type ∈ Vocabulary.stampTypes ∧ found.lookup type = none then
      match Object.intAt condition ["observedGeneration"] with
      | some n => (type, n) :: found
      | none => found
    else found
  | _ => found

/-- The stamp of the conditions: all of them are looked at before one of the stamps is chosen, so
that it is the one of the type that comes first. -/
def ofConditions (status : Json) : Option Int :=
  let found := (Object.listAt status ["conditions"]).foldl note []
  Vocabulary.stampTypes.findSome? fun type => found.lookup type

/-- The stamp of a status: its own, or else one of a condition. -/
def ofStatus (status : Json) : Stamp :=
  .ofOption <|
    match Object.intAt status ["observedGeneration"] with
    | some n => some n
    | none => ofConditions status

end Stamp

end Driftwatch.Parent
