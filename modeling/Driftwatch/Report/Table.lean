/-
Parents and decisions as tables for the terminal.

* `Table`: a title, headers and rows of cells.
* `stateRows`, `conditionTable`, `decisionTable`: what the tables hold.
-/
import Driftwatch.Report.Markup

namespace Driftwatch.Report

/-- A table. -/
structure Table where
  title : String
  headers : List String
  rows : List (List String)
  deriving DecidableEq

/-- The texts with a comma and a blank between each two of them. -/
def commaTexts (ss : List String) : String :=
  Text.commaList ss

/-- The cell with a parent's controller; only a text can stand in a cell. -/
def controllerCell (manager : Json) : Except Failure String :=
  if manager.isFalsy then .ok (dim "unknown")
  else match manager with
    | .text s => .ok s
    | other => .error (.unprintable other.shapeName)

/-- The row about the deletion of a parent, if there is a time of it to be shown. -/
def deletionRow : Option String → List (List String)
  | none | some "" => []
  | some time => [["Deleting", markup "magenta" time]]

/-- The rows about a parent. -/
def stateRows (s : Parent.State) : Except Failure (List (List String)) :=
  (controllerCell s.controllerManager).map fun controller =>
    [["Parent", s.ref.text],
      ["Generation", toString s.generation],
      ["Observed Gen",
        if s.observed.present then toString s.observed.value else dim "unset"],
      ["Controller", controller],
      ["Controllers", orDim (commaTexts s.controllers) "none"],
      ["Phase Annot.", orDim s.phaseText "none"]] ++
    deletionRow s.deletionTimestamp

/-- The title of the panel with a parent. -/
def stateTitle (s : Parent.State) : String :=
  markup "bold" (s.ref.kind ++ " " ++ s.ref.name)

/-- The table of a parent's conditions. -/
def conditionTable (conditions : List Parent.Condition) : Table :=
  { title := "Conditions"
    headers := ["Type", "Status", "Reason", "Message"]
    rows := conditions.map fun c => [c.type, markedStatus c.status, c.reason, c.message] }

/-- The table of a decision. -/
def decisionTable (d : Decision) (title : String) : Table :=
  { title
    headers := ["Key", "Value"]
    rows :=
      [["Verdict", markedVerdict d.allowed d.isDrift],
        ["Reason", d.reason],
        ["Parent", (d.parentRef.map Parent.Ref.text).getD (dim "none")],
        ["Phase", markedPhase d.phase]] }

end Driftwatch.Report
