/-
Reports on parents and decisions.

* `Format`: the forms of a report.
* `Printed`: what a report consists of.
* `ofState`, `ofDecision`: the report on a parent, and the one on a decision.
-/
import Driftwatch.Json.Printer
import Driftwatch.Report.Document
import Driftwatch.Report.Table
import Driftwatch.Yaml.Printer

namespace Driftwatch.Report

/-- The forms of a report. -/
inductive Format
  | table
  | json
  | yaml
  deriving DecidableEq

/-- The form of a name; tables are the form of all other names. -/
def Format.ofName (name : String) : Format :=
  if name = "json" then .json
  else if name = "yaml" then .yaml
  else .table

/-- A part of a report. -/
inductive Printed
  /-- A JSON text. -/
  | json (text : String)
  /-- A plain text. -/
  | text (text : String)
  /-- Rows in a frame with a title. -/
  | panel (title : String) (rows : List (List String))
  | table (t : Table)
  deriving DecidableEq

/-- A document in one of the forms that have one. -/
def ofDocument (j : Json) : Format → List Printed
  | .json => [.json j.indented]
  | .yaml => [.text (Yaml.print j)]
  | .table => []

/-- The report on a parent. -/
def ofState (s : Parent.State) (format : Format) : Except Failure (List Printed) :=
  match format with
  | .table =>
    (stateRows s).map fun rows =>
      .panel (stateTitle s) rows ::
        if s.conditions.isEmpty then [] else [.table (conditionTable s.conditions)]
  | other => .ok (ofDocument s.document other)

/-- The report on a decision. -/
def ofDecision (d : Decision) (format : Format) (title : String) : List Printed :=
  match format with
  | .table => [.table (decisionTable d title)]
  | other => ofDocument d.fullDocument other

end Driftwatch.Report
