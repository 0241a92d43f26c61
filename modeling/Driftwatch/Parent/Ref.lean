/-
References to parents.

* `Parent.Ref`: where a parent is found.
* `Parent.Ref.text`: the reference as a text; a parent without a namespace has no part for it.
-/

namespace Driftwatch.Parent

/-- Where a parent is found. -/
structure Ref where
  apiVersion : String
  kind : String
  namespaceName : String
  name : String
  deriving DecidableEq

/-- The reference as a text. -/
def Ref.text (r : Ref) : String :=
  if r.namespaceName = "" then r.apiVersion ++ "/" ++ r.kind ++ ":" ++ r.name
  else r.apiVersion ++ "/" ++ r.kind ++ ":" ++ r.namespaceName ++ "/" ++ r.name

end Driftwatch.Parent
