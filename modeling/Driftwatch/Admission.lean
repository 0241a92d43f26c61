/-
Admission requests.

* `Operation`: what a request does to an object.
* `Admission`: the parts of a request that matter here.
* `Admission.ofRequest`: the parts of a request as it is sent for review.
* `Admission.actor`: what names who made the request.
-/
import Driftwatch.Failure

namespace Driftwatch

/-- What a request does to an object. -/
inductive Operation
  | create
  | update
  | delete
  | connect
  deriving DecidableEq

namespace Operation

/-- The name of an operation. -/
def name : Operation → String
  | .create => "CREATE"
  | .update => "UPDATE"
  | .delete => "DELETE"
  | .connect => "CONNECT"

/-- The operations. -/
def all : List Operation := [.create, .update, .delete, .connect]

/-- The operation of a name, in any case.  All letters of the names are ASCII, and no other
letter has one of them as its capital. -/
def parse (s : String) : Except Failure Operation :=
  match all.find? fun o => o.name == s.toUpper with
  | some o => .ok o
  | none => .error (.unknownOperation s)

/-- The operation that a value names. -/
def ofJson (j : Json) : Except Failure Operation :=
  (j.asText "upper").bind parse

end Operation

/-- The parts of a request that matter.  What the server passed as a name is taken as it is. -/
structure Admission where
  operation : Operation
  username : Json
  uid : Json
  fieldManager : Json
  subResource : Json

namespace Admission

/-- A value, or the given one if it is falsy or missing. -/
def orElse (j : Option Json) (default : Json) : Json :=
  match j with
  | some j => if j.isFalsy then default else j
  | none => default

/-- The parts of a request. -/
def ofRequest (request : Json) : Except Failure Admission := do
  let user := orElse (← request.member "userInfo") (.object [])
  let options := orElse (← request.member "options") (.object [])
  let operation ← Operation.ofJson ((← request.member "operation").getD (.text ""))
  let username ← user.member "username"
  let uid ← user.member "uid"
  let fieldManager ← options.member "fieldManager"
  let subResource ← request.member "subResource"
  return { operation
           username := orElse username (.text "")
           uid := orElse uid (.text "")
           fieldManager := orElse fieldManager (.text "")
           subResource := orElse subResource (.text "") }

/-- What names who made the request: the user name, or else the unique id. -/
def actor (a : Admission) : Json :=
  if a.username.isFalsy then a.uid else a.username

/-- The request updates the status of an object. -/
def isStatusUpdate (a : Admission) : Bool :=
  a.subResource.same (.text "status") && a.operation == .update

end Admission

end Driftwatch
