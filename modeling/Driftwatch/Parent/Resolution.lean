/-
From an object to the state of its controlling parent.

* `Lookup`, `lookup`: what has to be fetched for a child, or why nothing can be.
* `conclude`: what follows from the answer to the fetch.
* `Resolution`, `resolve`: the whole way; `fetch` is any way to read objects.
* `Resolution.Error`: why a controlling parent could not be read.
-/
import Driftwatch.ApiVersion
import Driftwatch.Parent.State

namespace Driftwatch.Parent

/-- A parent to be fetched: the reference to it and the namespace of the child. -/
structure Lookup where
  owner : Owner
  namespaceName : String
  deriving DecidableEq

namespace Resolution

/-- Why a controlling parent could not be read. -/
inductive Error
  /-- The owner reference has no API version. -/
  | emptyApiVersion
  /-- The owner reference has an API version that is malformed. -/
  | malformedApiVersion (apiVersion : String) (cause : Failure)
  /-- The fetch failed. -/
  | unreachable (owner : Owner) (cause : Failure)
  /-- There is no such object. -/
  | missing (owner : Owner)
  deriving DecidableEq

namespace Error

/-- The start of the message about a fetch. -/
def fetchText (owner : Owner) : String :=
  "failed to get parent " ++ owner.kind ++ "/" ++ owner.name ++ ": "

/-- The wording of an error. -/
def message : Error → String
  | .emptyApiVersion => "invalid API version '': empty"
  | .malformedApiVersion apiVersion cause =>
    "invalid API version " ++ Text.quote apiVersion ++ ": " ++ cause.message
  | .unreachable owner cause => fetchText owner ++ cause.message
  | .missing owner => fetchText owner ++ "not found"

/-- The failure behind an error. -/
def cause? : Error → Option Failure
  | .malformedApiVersion _ cause | .unreachable _ cause => some cause
  | .emptyApiVersion | .missing _ => none

end Error

end Resolution

/-- What the search for a parent ends in. -/
inductive Resolution
  /-- No owner controls the object. -/
  | unowned
  | failed (error : Resolution.Error)
  | resolved (state : State)
  deriving DecidableEq

namespace Resolution

/-- The parent to be fetched for a child; none if no owner controls it. -/
def lookup (child : Json) : Except Error (Option Lookup) :=
  match Owner.controller? (Object.owners child) with
  | none => .ok none
  | some owner =>
    if owner.apiVersion = "" then .error .emptyApiVersion
    else match ApiVersion.parse owner.apiVersion with
      | .error cause => .error (.malformedApiVersion owner.apiVersion cause)
      | .ok _ => .ok (some { owner, namespaceName := Object.namespaceName child })

/-- The log line about a parent that was read.  There is none if a generation has too many
digits. -/
def notice? (state : State) : Option Log.Entry :=
  let observed := if state.observed.present then toString state.observed.value else "<unset>"
  if Json.isLong state.generation || state.observed.present && Json.isLong state.observed.value then
    none
  else some
    { level := .debug
      message := "Resolved parent " ++ state.ref.text ++ ": generation=" ++
        toString state.generation ++ " observedGeneration=" ++ observed }

/-- What follows from the answer to a fetch, with what is logged on the way.  An interrupt is
passed on, and so are an answer that is not an object and a parent that there is no room for. -/
def conclude (room : Room) (owner : Owner) :
    (answer : Except Failure (Option Json)) → Except Failure (Resolution × List Log.Entry)
  | .error cause =>
    if cause.isInterrupt then .error cause else .ok (.failed (.unreachable owner cause), [])
  | .ok none => .ok (.failed (.missing owner), [])
  | .ok (some parent) =>
    match Object.require parent with
    | .error cause => .error cause
    | .ok obj =>
      match State.extract room obj owner with
      | .error cause => .error cause
      | .ok state => .ok (.resolved state, State.notices room obj ++ (notice? state).toList)

/-- The parent of a child, with what is logged on the way. -/
def resolve {m : Type → Type} [Monad m] (room : Room)
    (fetch : Lookup → m (Except Failure (Option Json))) (child : Json) :
    m (Except Failure (Resolution × List Log.Entry)) :=
  match lookup child with
  | .error e => pure (.ok (.failed e, []))
  | .ok none => pure (.ok (.unowned, []))
  | .ok (some l) => do
    let answer ← fetch l
    return conclude room l.owner answer

end Resolution

end Driftwatch.Parent
