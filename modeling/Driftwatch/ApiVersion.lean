/-
API versions.

* `ApiVersion`: a group and a version; the core group has the empty name.
* `ApiVersion.parse`: the API version in a text: nothing, a version, or a group and a version
  with a slash between them.
* `ApiVersion.split`, `ApiVersion.ofJson`: the group and the version of a value from an object,
  whatever its shape.
-/
import Driftwatch.Failure
import Driftwatch.Text.Pieces

namespace Driftwatch

/-- An API version. -/
structure ApiVersion where
  group : String
  version : String
  deriving DecidableEq

namespace ApiVersion

/-- The API version of the core group with a version. -/
def core (version : String) : ApiVersion :=
  { group := "", version }

/-- The API version in a text. -/
def parse (s : String) : Except Failure ApiVersion :=
  match Text.pieces '/' s.toList with
  | [version] => .ok (core (String.ofList version))
  | [group, version] =>
    if group = [] ∨ version = [] then .error (.malformedApiVersion (.text s))
    else .ok { group := String.ofList group, version := String.ofList version }
  | _ => .error (.malformedApiVersion (.text s))

/-- The group and the version in a value.  A missing value belongs to the core group and has no
version; a list of parts without a slash among them belongs to the core group and is its own
version. -/
def split (j : Json) : Except Failure (String × Json) :=
  if j.isFalsy then .ok ("", .text "")
  else match j with
    | .text s => (parse s).map fun v => (v.group, .text v.version)
    | .list parts =>
      match parts.countP (Json.same (.text "/")) with
      | 0 => .ok ("", j)
      | 1 => .error (.lacking j.shapeName "split")
      | _ => .error (.malformedApiVersion j)
    | other => .error (.lacking other.shapeName "count")

/-- The API version that a value stands for; a version that is not a text counts as missing. -/
def ofJson (j : Json) : Except Failure ApiVersion :=
  (split j).map fun p => { group := p.1, version := p.2.textOrEmpty }

end ApiVersion

end Driftwatch
