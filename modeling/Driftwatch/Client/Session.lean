/-
Sessions of a client with the server of the cluster.

* `Api`: how the server answers.
* `Session`: the plurals that were looked up and the calls that were made.
* `plural`: the plural of a kind: the one that the server knows, or else the usual one.
* `address`: where an object is found; reading and writing use the same address.
* `get`, `replace`: reading an object and writing one back.
-/
import Driftwatch.Client.Plural
import Driftwatch.Client.Query

namespace Driftwatch.Client

/-- How the server answers. -/
structure Api where
  /-- The plural of a kind under an API version. -/
  discover : (apiVersion kind : Json) → Except Fault String
  /-- The answer to a query. -/
  serve : Query → Except Fault Json

/-- A call of the server. -/
inductive Call
  | discover (apiVersion kind : Json)
  | query (q : Query)

/-- What a client has found out and done. -/
structure Session where
  /-- The plurals that the server told, by API version and kind. -/
  plurals : List ((Json × Json) × String)
  calls : List Call

/-- The session at its start. -/
def Session.start : Session := { plurals := [], calls := [] }

/-- A plural that was told before. -/
def Session.known (s : Session) (apiVersion kind : Json) : Option String :=
  (s.plurals.find? fun p => p.1.1.same apiVersion && p.1.2.same kind).map Prod.snd

/-- An action of a client: it may fail, and what it did up to then remains done. -/
abbrev Act := ExceptT Failure (StateM Session)

/-- A result as an action. -/
def ofResult {α : Type} (r : Except Failure α) : Act α :=
  match r with
  | .ok a => pure a
  | .error e => throw e

/-- A call goes on record. -/
def record (call : Call) : Act Unit :=
  modify fun s => { s with calls := s.calls ++ [call] }

/-- The plural that the server tells goes on record. -/
def remember (apiVersion kind : Json) (plural : String) : Act Unit :=
  modify fun s => { s with plurals := s.plurals ++ [((apiVersion, kind), plural)] }

/-- A value can be looked up only if it has no parts. -/
def requireHashable : Json → Act Unit
  | .list xs => throw (.unhashable (Json.list xs).shapeName)
  | .object fs => throw (.unhashable (Json.object fs).shapeName)
  | _ => pure ()

/-- The usual plural of a kind. -/
def usualPlural (kind : Json) : Except Failure String :=
  (kind.asText "lower").map Plural.ofKind

/-- The plural of a kind.  The server is asked until it has told one; as long as it does not know
exactly one resource of the kind, the usual plural is taken. -/
def plural (api : Api) (apiVersion kind : Json) : Act String := do
  requireHashable apiVersion
  requireHashable kind
  match (← get).known apiVersion kind with
  | some name => return name
  | none =>
    record (.discover apiVersion kind)
    match api.discover apiVersion kind with
    | .ok name =>
      remember apiVersion kind name
      return name
    | .error (.notFound _) | .error (.notUnique _) => ofResult (usualPlural kind)
    | .error fault => throw (.fault fault)

/-- The resource of the core group for a kind. -/
def coreResource (kind : Json) (namespaced : Bool) : Except Failure Resource :=
  match kind.asText "lower" with
  | .error e => .error e
  | .ok kind =>
    match Resource.core? kind namespaced with
    | some r => .ok r
    | none => .error (.unsupportedCoreKind kind)

/-- The address of an object.  An empty namespace means that the object belongs to the whole
cluster. -/
def address (api : Api) (version : ApiVersion) (apiVersion kind name namespaceName : Json) :
    Act Address := do
  let scope := if namespaceName.isFalsy then none else some namespaceName
  if version.group = "" then
    let resource ← ofResult (coreResource kind scope.isSome)
    return { resource, namespaceName := scope, name }
  else
    let plural ← plural api apiVersion kind
    return { resource := .grouped version plural, namespaceName := scope, name }

/-- A query is put to the server. -/
def ask (api : Api) (timeout : Float) (address : Address) (action : Action) : Act Json := do
  let q : Query := { address, action, timeout }
  record (.query q)
  match api.serve q with
  | .ok j => return j
  | .error fault => throw (.fault fault)

/-- An object is read; null if there is no such object. -/
def read (api : Api) (timeout : Float) (apiVersion kind name namespaceName : Json) : Act Json := do
  let version ← ofResult (ApiVersion.ofJson apiVersion)
  tryCatch
    (do
      let address ← address api version apiVersion kind name namespaceName
      ask api timeout address .read)
    fun e => if e.isMissingObject then return .null else throw e

/-- The field of an object that is written, or the empty text. -/
def part (j : Json) (name : String) : Except Failure Json :=
  match j.member name with
  | .ok found => .ok (found.getD (.text ""))
  | .error e => .error e

/-- The metadata of an object that is written; falsy ones are no metadata. -/
def metadataOf (obj : Json) : Except Failure Json :=
  match obj.member "metadata" with
  | .ok found =>
    let metadata := found.getD .null
    .ok (if metadata.isFalsy then .object [] else metadata)
  | .error e => .error e

/-- What identifies an object. -/
structure Identity where
  apiVersion : Json
  kind : Json
  name : Json
  namespaceName : Json
  deriving DecidableEq

/-- What identifies an object that is written. -/
def Identity.of (obj : Json) : Except Failure Identity := do
  let metadata ← metadataOf obj
  let name ← part metadata "name"
  let namespaceName ← part metadata "namespace"
  let kind ← part obj "kind"
  let apiVersion ← part obj "apiVersion"
  return { apiVersion, kind, name, namespaceName }

/-- An object is written back; the server's answer is passed on. -/
def replace (api : Api) (timeout : Float) (obj : Json) : Act Json := do
  let i ← ofResult (Identity.of obj)
  let version ← ofResult (ApiVersion.ofJson i.apiVersion)
  let address ← address api version i.apiVersion i.kind i.name i.namespaceName
  ask api timeout address (.replace obj)

end Driftwatch.Client
