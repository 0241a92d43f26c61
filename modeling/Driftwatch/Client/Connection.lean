/-
How a client comes to its connection.

* `Surroundings`: what the client finds: a configuration file that can be used or not, and the
  same for the configuration inside a cluster.
* `Connection`: the configuration in use and the interfaces that were built on it.
* `Connection.access`: an interface; the configuration is loaded and the interface built when
  they are first needed.
-/
import Driftwatch.Failure

namespace Driftwatch.Client

/-- What a client finds when it looks for a configuration. -/
structure Surroundings where
  /-- The size of the connection pool according to the configuration file, or the fault that
  reading the file ends in. -/
  file : Except Fault Int
  /-- The fault that using the configuration inside a cluster ends in, if it does. -/
  insideFault : Option Fault

/-- A configuration in use. -/
inductive Configuration
  /-- The one of the configuration file. -/
  | file (retries poolSize : Int)
  /-- The one inside a cluster. -/
  | inside
  deriving DecidableEq

/-- The interfaces of the server. -/
inductive Interface
  | core
  | custom
  | dynamic
  deriving DecidableEq

/-- What is done to get a connection. -/
inductive Setup
  | loadFile (context : Option String)
  | loadInside
  | buildDynamic
  deriving DecidableEq

/-- The connection of a client. -/
structure Connection where
  context : Option String
  configuration : Option Configuration
  built : List Interface
  deriving DecidableEq

namespace Connection

/-- The connection of a client that has not done anything.  A context that is given has
precedence over the one of the settings. -/
def start (given settings : Option String) : Connection :=
  { context := given.or settings, configuration := none, built := [] }

/-- The configuration of a file.  A query is repeated once at most, and a pool without a size
gets room for four connections. -/
def ofPool (size : Int) : Configuration :=
  .file 1 (if size = 0 then 4 else size)

/-- The configuration is loaded, unless it is there already.  A file that cannot be used is made
up for by the configuration inside a cluster. -/
def load (found : Surroundings) (c : Connection) :
    List Setup × Except Fault Connection :=
  match c.configuration with
  | some _ => ([], .ok c)
  | none =>
    match found.file with
    | .ok size => ([.loadFile c.context], .ok { c with configuration := some (ofPool size) })
    | .error (.configuration _) =>
      ([.loadFile c.context, .loadInside],
        match found.insideFault with
        | some fault => .error fault
        | none => .ok { c with configuration := some .inside })
    | .error fault => ([.loadFile c.context], .error fault)

/-- An interface is asked for, with what is done for it. -/
def access (found : Surroundings) (c : Connection) (i : Interface) :
    List Setup × Except Fault Connection :=
  if i ∈ c.built then ([], .ok c)
  else
    match c.load found with
    | (done, .error fault) => (done, .error fault)
    | (done, .ok c) =>
      (if i = .dynamic then done ++ [.buildDynamic] else done,
        .ok { c with built := i :: c.built })

/-- Interfaces are asked for one after the other; a failure leaves the connection as it was. -/
def accessAll (found : Surroundings) (c : Connection) :
    List Interface → List (List Setup × Option Fault) × Connection
  | [] => ([], c)
  | i :: rest =>
    match c.access found i with
    | (done, .ok c') =>
      let (more, last) := accessAll found c' rest
      ((done, none) :: more, last)
    | (done, .error fault) =>
      let (more, last) := accessAll found c rest
      ((done, some fault) :: more, last)

end Connection

end Driftwatch.Client
