/-
A cluster that is given by tables.

* `Cluster`: the plurals that the server knows, the objects that it serves, and its faults.
* `Cluster.api`: the server's answers according to the tables.
* `Cluster.ofJson`: the tables of a cluster that are given as JSON.
-/
import Driftwatch.Client.Session

namespace Driftwatch.Client

/-- A cluster that is given by tables. -/
structure Cluster where
  /-- The plural of a kind, or the fault that a lookup ends in. -/
  discovery : List (String × Except Fault String)
  /-- The object at a path, or the fault that reading it ends in. -/
  resources : List (String × Except Fault Json)
  /-- The fault that writing to a path ends in. -/
  replaceFaults : List (String × Fault)

namespace Cluster

/-- The answer to a query.  A write that meets no fault is answered with what was written. -/
def serve (c : Cluster) (q : Query) : Except Fault Json :=
  let path := q.address.path
  match q.action with
  | .read => (c.resources.lookup path).getD (.error (.api (.int 404) (.text "Not Found")))
  | .replace body =>
    match c.replaceFaults.lookup path with
    | some fault => .error fault
    | none => .ok body

/-- The server's answers according to the tables. -/
def api (c : Cluster) : Api where
  discover apiVersion kind :=
    (c.discovery.lookup (apiVersion.plain ++ ":" ++ kind.plain)).getD (.error (.notFound ""))
  serve := c.serve

/-- The tables that are given as JSON: the plurals by API version and kind, with a colon between
them, and the objects by their paths. -/
def ofJson (j : Json) : Cluster :=
  { discovery := (j.getOrNull "discovery").fields.map fun p => (p.1, .ok p.2.textOrEmpty)
    resources := (j.getOrNull "resources").fields.map fun p => (p.1, .ok p.2)
    replaceFaults := [] }

end Cluster

end Driftwatch.Client
