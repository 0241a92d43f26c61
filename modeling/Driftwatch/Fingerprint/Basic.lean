/-
Fingerprints: the short texts that stand for actors.

* `Fingerprint.identity`: what names an actor, the user name or else the unique id.
* `Fingerprint.ofIdentity`: the fingerprint, five characters of base thirty-six.
-/
import Driftwatch.Fingerprint.Base36
import Driftwatch.Sha256

namespace Driftwatch.Fingerprint

/-- The number of characters of a fingerprint. -/
def width : Nat := 5

/-- What names an actor: the user name, or the unique id if there is no user name. -/
def identity (username uid : Option String) : Option String :=
  match username with
  | none | some "" => uid
  | some name => some name

/-- The bytes of a text in UTF-8. -/
def encodeText (s : String) : List UInt8 :=
  s.toList.flatMap String.utf8EncodeChar

/-- The number with the given bytes, the leading one first. -/
def ofBytes (bytes : List UInt8) : Nat :=
  bytes.foldl (fun n b => 256 * n + b.toNat) 0

/-- The fingerprint of a number: its numeral in base thirty-six, filled with zeros from the left
or cut at the right to five characters. -/
def ofNumber (n : Nat) : List Char :=
  let numeral := Base36.encodeChars n
  (List.replicate (width - numeral.length) '0' ++ numeral).take width

/-- The fingerprint of an actor, taken from the first four bytes of the digest of its
identity. -/
def ofIdentity (identity : String) : String :=
  String.ofList (ofNumber (ofBytes ((Sha256.digest (encodeText identity)).take 4)))

/-- Every fingerprint has five characters. -/
theorem length_ofNumber (n : Nat) : (ofNumber n).length = width := by
  simp only [ofNumber, List.length_take, List.length_append, List.length_replicate]
  omega

end Driftwatch.Fingerprint
