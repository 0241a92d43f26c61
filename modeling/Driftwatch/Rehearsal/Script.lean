/-
Scripts for rehearsals: what happens to a ledger and a store, step by step.

* `Step`: a request to the ledger, or a change made to the store by someone else.
* `Cue`: what happens during one call of the store: steps that are taken while the call is
  under way, and a fault that it may end in.
-/
import Driftwatch.Failure
import Driftwatch.Object.Typed

namespace Driftwatch.Rehearsal

/-- A step of a rehearsal. -/
inductive Step
  /-- An actor updates the status of an object. -/
  | controller (obj : Object.Source) (actor : Json)
  /-- An object reaches a phase. -/
  | phase (obj : Object.Source) (phase : String)
  /-- An object is placed in the store. -/
  | put (obj : Json)
  /-- The object under a key is removed from the store. -/
  | remove (key : String)
  /-- The object under a key is looked at. -/
  | look (key : String)
  /-- Someone asks whether all delayed flushes have come to their ends. -/
  | waitIdle
  /-- The delay of the flush for a key is over. -/
  | release (key : String)

/-- What happens during a call of the store. -/
structure Cue where
  steps : List Step
  fault : Option Fault

/-- A call during which nothing happens. -/
def Cue.quiet : Cue := { steps := [], fault := none }

end Driftwatch.Rehearsal
