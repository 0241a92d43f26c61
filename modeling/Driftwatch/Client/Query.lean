/-
Queries to the server of the cluster.

* `Resource`: a resource of a named group, or one of the core group.
* `Address`: one object of a resource.
* `Query`: reading or replacing the object at an address.
* `Query.method`, `Query.parameters`: the query as a call of the server's interface.
* `Resource.core?`: the resources of the core group, by kind.
-/
import Driftwatch.ApiVersion
import Driftwatch.Text.Lowercase

namespace Driftwatch.Client

/-- A resource of the server. -/
inductive Resource
  /-- A resource of a named group, by its plural. -/
  | grouped (apiVersion : ApiVersion) (plural : String)
  /-- A resource of the core group. -/
  | core (name : String)
  deriving DecidableEq

/-- The kinds of the core group that live in namespaces, with their resources. -/
def namespacedKinds : List (String × String) :=
  [("service", "service"), ("configmap", "config_map"), ("secret", "secret"),
    ("serviceaccount", "service_account"), ("persistentvolumeclaim", "persistent_volume_claim"),
    ("pod", "pod"), ("endpoints", "endpoints"),
    ("replicationcontroller", "replication_controller")]

/-- The kinds of the core group that belong to the whole cluster, with their resources. -/
def clusterKinds : List (String × String) :=
  [("namespace", "namespace"), ("persistentvolume", "persistent_volume"), ("node", "node")]

/-- The resource of the core group for a kind, in any case. -/
def Resource.core? (kind : String) (namespaced : Bool) : Option Resource :=
  ((if namespaced then namespacedKinds else clusterKinds).lookup (Text.lower kind)).map .core

/-- One object of a resource. -/
structure Address where
  resource : Resource
  /-- The namespace; none for an object that belongs to the whole cluster. -/
  namespaceName : Option Json
  name : Json
  deriving DecidableEq

/-- The address as a path. -/
def Address.path (a : Address) : String :=
  let resource :=
    match a.resource with
    | .grouped v plural => v.group ++ "/" ++ v.version ++ ":" ++ plural
    | .core name => "v1:" ++ name
  resource ++ ":" ++ (a.namespaceName.getD (.text "")).plain ++ "/" ++ a.name.plain

/-- What is to be done with an object. -/
inductive Action
  | read
  | replace (body : Json)

/-- The object that is written, if one is. -/
def Action.body? : Action → Option Json
  | .read => none
  | .replace body => some body

/-- A query to the server. -/
structure Query where
  address : Address
  action : Action
  /-- How long the query may take, in seconds. -/
  timeout : Float

namespace Query

/-- The name of the call of the server's interface. -/
def method (q : Query) : String :=
  let inNamespace := q.address.namespaceName.isSome
  match q.address.resource with
  | .grouped _ _ =>
    (match q.action with | .read => "get" | .replace _ => "replace") ++
      (if inNamespace then "_namespaced" else "_cluster") ++ "_custom_object"
  | .core name =>
    (match q.action with | .read => "read" | .replace _ => "replace") ++
      (if inNamespace then "_namespaced_" else "_") ++ name

/-- A parameter that may be missing. -/
def parameter (name : String) (value : Option Json) : List (String × Json) :=
  value.toList.map (name, ·)

/-- The parameters of the call. -/
def parameters (q : Query) : List (String × Json) :=
  (match q.address.resource with
    | .grouped v plural =>
      [("group", .text v.group), ("version", .text v.version), ("plural", .text plural)]
    | .core _ => []) ++
    parameter "namespace" q.address.namespaceName ++ [("name", q.address.name)] ++
    parameter "body" q.action.body? ++ [("_request_timeout", .float q.timeout)]

end Query

end Driftwatch.Client
