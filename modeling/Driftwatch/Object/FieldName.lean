/-
The names of the fields of models.

A model gives its fields names in snake case, with an underscore before names that are reserved
words; in the JSON tree of an object they stand in camel case.

* `abbreviations`: the words that are written in capitals.
* `irregular`, `capitalizedModels`: the fields with names that do not follow the rule.
* `fieldName`: the name that a field of a model has in the tree.
-/
import Driftwatch.Text.Pieces

namespace Driftwatch.Object

/-- A word with a capital first letter. -/
def capitalized : List Char → List Char
  | [] => []
  | c :: cs => c.toUpper :: cs

/-- The words that are written in capitals, unless they come first. -/
def abbreviations : List (String × String) :=
  [("api", "API"), ("apiv3", "APIV3"), ("cidr", "CIDR"), ("cidrs", "CIDRs"), ("fqdn", "FQDN"),
    ("id", "ID"), ("io", "IO"), ("ip", "IP"), ("ipc", "IPC"), ("ips", "IPs"), ("pid", "PID"),
    ("tls", "TLS"), ("uid", "UID"), ("uri", "URI"), ("urls", "URLs"), ("uuid", "UUID"),
    ("wwns", "WWNs")]

/-- A word that is not the first of a name. -/
def laterWord (word : List Char) : List Char :=
  match abbreviations.lookup (String.ofList word) with
  | some capitals => capitals.toList
  | none => capitalized word

/-- The name in camel case of a name in snake case. -/
def camelCase (name : String) : String :=
  match Text.pieces '_' (name.toList.dropWhile (· == '_')) with
  | [] => ""
  | word :: words => String.ofList (word ++ words.flatMap laterWord)

/-- The fields with names that do not follow the rule, by the model and the name in snake case. -/
def irregular : List ((String × String) × String) :=
  [(("V1JSONSchemaProps", "ref"), "$ref"), (("V1JSONSchemaProps", "schema"), "$schema")]

/-- The models with fields whose names begin with a capital letter. -/
def capitalizedModels : List String := ["V1DaemonEndpoint"]

/-- The mark of the fields that are an extension of the cluster to a foreign schema. -/
def extensionMark : List Char := "x_kubernetes_".toList

/-- The name that a field of a model has in the tree.  Extensions have dashes in their names. -/
def fieldName (model name : String) : String :=
  match irregular.lookup (model, name) with
  | some other => other
  | none =>
    if extensionMark.isPrefixOf name.toList then name.map fun c => if c = '_' then '-' else c
    else if model ∈ capitalizedModels then String.ofList (capitalized (camelCase name).toList)
    else camelCase name

end Driftwatch.Object
