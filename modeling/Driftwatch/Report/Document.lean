/-
Parents and decisions as JSON documents.

* `Parent.State.document`: the state of a parent.
* `Decision.document`: a decision; `Decision.fullDocument` has the parent's state as well.
-/
import Driftwatch.Decision

namespace Driftwatch

/-- A text that may be missing. -/
def Json.ofText? : Option String → Json
  | some s => .text s
  | none => .null

/-- A list of texts. -/
def Json.ofTexts (ss : List String) : Json :=
  .list (ss.map .text)

/-- A condition as a document. -/
def Parent.Condition.document (c : Parent.Condition) : Json :=
  .object
    [("type", .text c.type), ("status", .text c.status), ("reason", .text c.reason),
      ("message", .text c.message)]

/-- A stamp as a document; a missing one is null. -/
def Parent.Stamp.document (s : Parent.Stamp) : Json :=
  if s.present then .int s.value else .null

/-- The state of a parent as a document. -/
def Parent.State.document (s : Parent.State) : Json :=
  .object
    [("ref", .text s.ref.text),
      ("generation", .int s.generation),
      ("observedGeneration", s.observed.document),
      ("controllerManager", s.controllerManager),
      ("controllers", .ofTexts s.controllers),
      ("deletionTimestamp", .ofText? s.deletionTimestamp),
      ("isInitialized", .bool s.isInitialized),
      ("phaseAnnotation", .text s.phaseText),
      ("conditions", .list (s.conditions.map Parent.Condition.document))]

namespace Decision

/-- A decision as a document. -/
def document (d : Decision) : Json :=
  .object
    [("allowed", .bool d.allowed),
      ("reason", .text d.reason),
      ("driftDetected", .bool d.isDrift),
      ("parentRef", .ofText? (d.parentRef.map Parent.Ref.text)),
      ("lifecyclePhase", .ofText? (d.phase.map Phase.name))]

/-- A decision as a document, with the state of the parent if there is one. -/
def fullDocument (d : Decision) : Json :=
  match d.parentState with
  | some s => d.document.set "parentState" s.document
  | none => d.document

end Decision

end Driftwatch
