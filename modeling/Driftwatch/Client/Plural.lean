/-
The plural names of kinds.

* `Plural.ofKind`: the usual plural of a kind, in lower case, as it stands in the address of a
  resource.
-/
import Driftwatch.Text.Lowercase

namespace Driftwatch.Plural

/-- The letters after which a final `y` stays. -/
def vowels : List Char := ['a', 'e', 'i', 'o', 'u']

/-- The plural of a singular that is given from its last letter to its first: hissing sounds
take `es`, a `y` after a consonant becomes `ies`, and all else takes `s`. -/
def ofReversed : List Char → List Char
  | 's' :: rest => 's' :: 'e' :: 's' :: rest
  | 'x' :: rest => 's' :: 'e' :: 'x' :: rest
  | 'z' :: rest => 's' :: 'e' :: 'z' :: rest
  | 'h' :: 'c' :: rest => 's' :: 'e' :: 'h' :: 'c' :: rest
  | 'h' :: 's' :: rest => 's' :: 'e' :: 'h' :: 's' :: rest
  | 'y' :: c :: rest =>
    if c ∈ vowels then 's' :: 'y' :: c :: rest else 's' :: 'e' :: 'i' :: c :: rest
  | letters => 's' :: letters

/-- The plural of a kind. -/
def ofKind (kind : String) : String :=
  String.ofList (ofReversed (Text.lower kind).toList.reverse).reverse

end Driftwatch.Plural
