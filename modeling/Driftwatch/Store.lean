/-
A store of objects with conditional writes.

* `Store.keyText`, `Store.keyOf`: the key that an object is kept under.
* `Store.get?`, `Store.put`, `Store.remove`: reading, placing and removing objects.
* `Store.replace`: writing an object back, which succeeds only if it has not changed since it
  was read: its resource version must be the stored one, and the write gives it the next.
-/
import Driftwatch.Decimal.Reader
import Driftwatch.Object.Basic

namespace Driftwatch

/-- Objects under their keys. -/
structure Store where
  objects : List (String × Json)

namespace Store

/-- The store without objects. -/
def empty : Store := { objects := [] }

/-! ### Keys -/

/-- The key made of an API version, a kind, a namespace and a name. -/
def keyText (apiVersion kind namespaceName name : Json) : String :=
  apiVersion.plain ++ "|" ++ kind.plain ++ "|" ++ namespaceName.plain ++ "|" ++ name.plain

/-- A field of an object as part of its key; a missing one is empty. -/
def keyPart (j : Json) (name : String) : Json :=
  (j.get? name).getD (.text "")

/-- The key of an object. -/
def keyOf (obj : Json) : String :=
  let metadata := obj.getOrNull "metadata"
  keyText (keyPart obj "apiVersion") (keyPart obj "kind") (keyPart metadata "namespace")
    (keyPart metadata "name")

/-! ### Resource versions -/

/-- The resource version in an object's metadata. -/
def versionOf (obj : Json) : Json :=
  (obj.getOrNull "metadata").getOrNull "resourceVersion"

/-- An object with a resource version, if it has metadata. -/
def withVersion (obj : Json) (version : String) : Json :=
  match obj.get? "metadata" with
  | some (.object fields) =>
    obj.set "metadata" (.object (Json.setField "resourceVersion" (.text version) fields))
  | _ => obj

/-- The integer that a text is the numeral of; the numeral must not be too long. -/
def integer? (s : String) : Option Int :=
  let cs := ((s.toList.dropWhile Decimal.isPadding).reverse.dropWhile Decimal.isPadding).reverse
  let (negative, cs) := Decimal.signed cs
  match Decimal.digitRun cs with
  | ([], _) | (_, _ :: _) => none
  | (ds, []) =>
    if Decimal.longestInteger < ds.length then none
    else some (if negative then -(Decimal.ofDigits ds : Int) else Decimal.ofDigits ds)

/-- The integer that a resource version stands for. -/
def versionNumber? : Json → Option Int
  | .text s => integer? s
  | .int n => some n
  | .bool b => some (Json.ofBool b)
  | _ => none

/-- The resource version that follows one, if its numeral is not too long. -/
def nextVersion (version : Json) : Except Failure String :=
  match versionNumber? version with
  | none => .error (.uncountableVersion version)
  | some n =>
    if Decimal.longestInteger < (Nat.toDigits 10 (n + 1).natAbs).length then
      .error (.uncountableVersion version)
    else .ok (toString (n + 1))

/-! ### Operations -/

/-- The object under a key. -/
def get? (s : Store) (key : String) : Option Json :=
  Json.field? key s.objects

/-- The store with an object under a key. -/
def insert (s : Store) (key : String) (obj : Json) : Store :=
  { objects := Json.setField key obj s.objects }

/-- The store with an object under its own key; an object without a resource version gets the
first one. -/
def put (s : Store) (obj : Json) : Store :=
  let obj :=
    match (obj.getOrNull "metadata").get? "resourceVersion" with
    | some _ => obj
    | none => withVersion obj "1"
  s.insert (keyOf obj) obj

/-- The store with all the given objects. -/
def ofList (objects : List Json) : Store :=
  objects.foldl put empty

/-- The store without the object under a key. -/
def remove (s : Store) (key : String) : Store :=
  { objects := s.objects.filter fun p => p.1 != key }

/-- The fault of a server that has no such object. -/
def absent : Failure :=
  .fault (.api (.int 404) (.text "Not Found"))

/-- The fault of a server whose object has another resource version. -/
def conflict : Failure :=
  .fault (.api (.int 409) (.text "Conflict"))

/-- The store with an object written back.  An object without metadata has no resource version,
so nothing is compared. -/
def replace (s : Store) (body : Json) : Except Failure Store :=
  let key := keyOf body
  match s.get? key with
  | none => .error absent
  | some stored =>
    if (stored.getOrNull "metadata").isObject then
      if (versionOf stored).same (versionOf body) then
        match nextVersion (versionOf stored) with
        | .ok version => .ok (s.insert key (withVersion body version))
        | .error e => .error e
      else .error conflict
    else .ok (s.insert key body)

/-- An object that was inserted is found under its key, and all others as before. -/
theorem get?_insert (s : Store) (key other : String) (obj : Json) :
    (s.insert key obj).get? other = if key = other then some obj else s.get? other :=
  Json.field?_setField key other obj s.objects

/-- A key that was removed has no object, and all others are found as before. -/
theorem get?_remove (s : Store) (key other : String) :
    (s.remove key).get? other = if key = other then none else s.get? other := by
  rw [remove, get?, get?]
  induction s.objects with
  | nil => simp [Json.field?]
  | cons p rest ih =>
    obtain ⟨k, obj⟩ := p
    by_cases hk : k = key
    · subst hk
      by_cases h : k = other <;> simp_all [Json.field?]
    · by_cases h : k = other
      · subst h
        simp [Json.field?, hk, Ne.symm hk]
      · simp [Json.field?, hk, h, ih]

/-- A resource version without a successor is no interrupt. -/
theorem isInterrupt_of_nextVersion {version : Json} {e : Failure}
    (h : nextVersion version = .error e) : e.isInterrupt = false := by
  rw [nextVersion] at h
  split at h
  · obtain rfl := Except.error.inj h
    rfl
  · split at h
    · obtain rfl := Except.error.inj h
      rfl
    · simp at h

/-- A write that is refused is no interrupt. -/
theorem isInterrupt_of_replace {s : Store} {body : Json} {e : Failure}
    (h : s.replace body = .error e) : e.isInterrupt = false := by
  rw [replace] at h
  split at h
  · obtain rfl := Except.error.inj h
    rfl
  · split at h
    · split at h
      · split at h
        · simp at h
        · rename_i next
          obtain rfl := Except.error.inj h
          exact isInterrupt_of_nextVersion next
      · obtain rfl := Except.error.inj h
        rfl
    · simp at h

end Store

end Driftwatch
