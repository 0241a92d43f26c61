/-
Carrying out what a command line asks for.

* `Line`: a line that is printed, or a part of a report.
* `Outcome`: the exit code or the failure, what was printed, and what was done on the way.
* `Task.run`, `Action.run`: carrying out a task, and whatever a command line asks for.
-/
import Driftwatch.Client.Session
import Driftwatch.Command.Invocation
import Driftwatch.Ledger.Request
import Driftwatch.Settings

namespace Driftwatch.Command

open Client (Api Session)

/-- Something that is printed. -/
inductive Line
  | out (text : String)
  /-- A line for the error output. -/
  | err (text : String)
  | report (part : Report.Printed)

/-- What came of an invocation. -/
structure Outcome where
  /-- The exit code, or a failure that nobody took care of. -/
  result : Except Failure Nat
  printed : List Line
  /-- The contexts of the clients that were set up. -/
  contexts : List (Option String)
  calls : List Client.Call
  logs : List Log.Entry

namespace Outcome

/-- An outcome without a client. -/
def plain (code : Nat) (printed : List Line) : Outcome :=
  { result := .ok code, printed, contexts := [], calls := [], logs := [] }

/-- The exit code after an interrupt. -/
def interruptCode : Nat := 130

/-- The exit code after a command line that cannot be understood. -/
def misuseCode : Nat := 2

/-- The result of a failure.  An interrupt has an exit code of its own. -/
def failed (e : Failure) : Except Failure Nat :=
  if e.isInterrupt then .ok interruptCode else .error e

end Outcome

/-- What a task came to, apart from the client's part in it. -/
structure Finding where
  result : Except Failure Nat
  printed : List Line
  logs : List Log.Entry

namespace Finding

/-- A failure that nobody took care of. -/
def failure (e : Failure) : Finding :=
  { result := Outcome.failed e, printed := [], logs := [] }

/-- A line with an exit code. -/
def line (code : Nat) (l : Line) (logs : List Log.Entry) : Finding :=
  { result := .ok code, printed := [l], logs }

/-- A report. -/
def report (parts : List Report.Printed) (logs : List Log.Entry) : Finding :=
  { result := .ok 0, printed := parts.map Line.report, logs }

end Finding

/-! ### Objects of the cluster -/

/-- An object that is null is missing. -/
def present? : Json → Option Json
  | .null => none
  | j => some j

/-- An object of the cluster is read. -/
def fetch (api : Api) (timeout : Float) (apiVersion kind name namespaceName : String) :
    StateM Session (Except Failure (Option Json)) := do
  let answer ←
    (Client.read api timeout (.text apiVersion) (.text kind) (.text name)
      (.text namespaceName)).run
  return answer.map present?

/-- A parent is read. -/
def fetchParent (api : Api) (timeout : Float) (l : Parent.Lookup) :
    StateM Session (Except Failure (Option Json)) :=
  fetch api timeout l.owner.apiVersion l.owner.kind l.owner.name l.namespaceName

/-- The kind and the name of an object, as it stands in messages. -/
def Child.text (c : Child) : String :=
  c.kind ++ " '" ++ c.name ++ "'"

/-- The object that a command is about is read, and something is done with it. -/
def withChild (api : Api) (settings : Settings) (c : Child)
    (use : Json → StateM Session Finding) : StateM Session Finding := do
  match ← fetch api settings.requestTimeout c.apiVersion c.kind c.name c.namespaceName with
  | .error e => return .failure e
  | .ok none => return .line 1 (.err (c.text ++ " not found.")) []
  | .ok (some j) =>
    match Object.require j with
    | .error e => return .failure e
    | .ok child => use child

/-! ### Tasks -/

/-- The room that a task about an object has. -/
def room : Room :=
  .below 10

/-- The parent of an object is shown. -/
def showParent (api : Api) (settings : Settings) (c : Child) (child : Json) :
    StateM Session Finding := do
  match ← Parent.Resolution.resolve room (fetchParent api settings.requestTimeout) child with
  | .error e => return .failure e
  | .ok (.failed e, logs) =>
    return .line 1 (.err ("Failed to resolve parent: " ++ e.message)) logs
  | .ok (.unowned, logs) =>
    return .line 0 (.out (c.text ++ " has no controller owner reference.")) logs
  | .ok (.resolved state, logs) =>
    match Report.ofState state c.format with
    | .ok parts => return .report parts logs
    | .error e => return { Finding.failure e with logs }

/-- Whose change it is, according to the options.  A user has precedence over a field
manager. -/
def attribution (fieldManager user uid : String) (child : Json) : Decision.Attribution :=
  match Fingerprint.identity (some user) (some uid) with
  | none | some "" => if fieldManager = "" then .unknown else .fieldManager (.text fieldManager)
  | some actor => .user actor (updaters child)

/-- A change of an object is decided on. -/
def showDecision (api : Api) (settings : Settings) (c : Child)
    (fieldManager user uid : String) (child : Json) : StateM Session Finding := do
  let who := attribution fieldManager user uid child
  match ← Decision.detect room (fetchParent api settings.requestTimeout) settings.strategies who
      child with
  | .error e => return .failure e
  | .ok (d, logs) =>
    let title := "Drift Decision: " ++ c.kind ++ "/" ++ c.name
    return .report (Report.ofDecision d c.format title) logs

/-- A task about an object is carried out by a client of its own. -/
def withClient (settings : Settings) (c : Child) (work : StateM Session Finding) : Outcome :=
  let (finding, session) := work.run Session.start
  { result := finding.result
    printed := finding.printed
    contexts := [c.context.or settings.context]
    calls := session.calls
    logs := finding.logs }

/-- A task is carried out. -/
def Task.run (api : Api) (settings : Settings) : Task → Outcome
  | .hash username uid =>
    match Fingerprint.identity (some username) (some uid) with
    | none | some "" => .plain 1 [.err "A username or --uid is required."]
    | some identity => .plain 0 [.out (Fingerprint.ofIdentity identity)]
  | .parent c => withClient settings c (withChild api settings c (showParent api settings c))
  | .drift c fieldManager user uid =>
    withClient settings c
      (withChild api settings c (showDecision api settings c fieldManager user uid))

/-- Whatever a command line asks for is carried out. -/
def Action.run (api : Api) (settings : Settings) : Action → Outcome
  | .help => .plain 0 []
  | .misuse _ => .plain Outcome.misuseCode []
  | .perform task => task.run api settings

end Driftwatch.Command
