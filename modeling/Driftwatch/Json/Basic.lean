/-
JSON values.

* `Json`: the values; integers are unbounded and stay apart from floating-point numbers, and the
  fields of an object keep their order.
* `Foreign`: what is not JSON and may stand in the place of a value all the same.
* `get?`, `set`: a field of an object; writing a field leaves every other one where it is.
* `isFalsy`: null, false, zero, and what is empty.
* `same`: equality as values: an integer equals the floating-point number of that value, a truth
  value equals one or zero, and objects are equal whatever the order of their fields.
* `shapeName`: the word for the shape of a value.
-/
import Driftwatch.Decimal.Binary

namespace Driftwatch

/-- Something that is not JSON.  It has no parts that could be looked at, and all that is known of
it is how it is shown. -/
structure Json.Foreign where
  /-- The word for what it is. -/
  shape : String
  /-- The text that it is shown as. -/
  plain : String
  /-- The text that it is shown as inside other values. -/
  quoted : String
  deriving DecidableEq

/-- A JSON value, or a foreign one in its place. -/
inductive Json where
  | null
  | bool (b : Bool)
  | int (n : Int)
  | float (x : Float)
  | text (s : String)
  | list (items : List Json)
  | object (fields : List (String × Json))
  | foreign (v : Json.Foreign)
  deriving Inhabited

namespace Json

/-! ### Decidable equality -/

mutual

/-- Two values are the same tree or not. -/
def decEq : (a b : Json) → Decidable (a = b)
  | .null, .null => isTrue rfl
  | .bool a, .bool b => if h : a = b then isTrue (by rw [h]) else isFalse (by simp [h])
  | .int a, .int b => if h : a = b then isTrue (by rw [h]) else isFalse (by simp [h])
  | .float a, .float b => if h : a = b then isTrue (by rw [h]) else isFalse (by simp [h])
  | .text a, .text b => if h : a = b then isTrue (by rw [h]) else isFalse (by simp [h])
  | .list a, .list b =>
    match decEqItems a b with
    | isTrue h => isTrue (by rw [h])
    | isFalse h => isFalse (by simp [h])
  | .object a, .object b =>
    match decEqFields a b with
    | isTrue h => isTrue (by rw [h])
    | isFalse h => isFalse (by simp [h])
  | .foreign a, .foreign b =>
    if h : a = b then isTrue (by rw [h]) else isFalse (by simp [h])
  | .null, .bool _ | .null, .int _ | .null, .float _ | .null, .text _ | .null, .list _
  | .null, .object _ | .null, .foreign _
  | .bool _, .null | .bool _, .int _ | .bool _, .float _ | .bool _, .text _ | .bool _, .list _
  | .bool _, .object _ | .bool _, .foreign _
  | .int _, .null | .int _, .bool _ | .int _, .float _ | .int _, .text _ | .int _, .list _
  | .int _, .object _ | .int _, .foreign _
  | .float _, .null | .float _, .bool _ | .float _, .int _ | .float _, .text _
  | .float _, .list _ | .float _, .object _ | .float _, .foreign _
  | .text _, .null | .text _, .bool _ | .text _, .int _ | .text _, .float _ | .text _, .list _
  | .text _, .object _ | .text _, .foreign _
  | .list _, .null | .list _, .bool _ | .list _, .int _ | .list _, .float _ | .list _, .text _
  | .list _, .object _ | .list _, .foreign _
  | .object _, .null | .object _, .bool _ | .object _, .int _ | .object _, .float _
  | .object _, .text _ | .object _, .list _ | .object _, .foreign _
  | .foreign _, .null | .foreign _, .bool _ | .foreign _, .int _ | .foreign _, .float _
  | .foreign _, .text _ | .foreign _, .list _ | .foreign _, .object _ => isFalse (by simp)

/-- Two lists of values are the same or not. -/
def decEqItems : (a b : List Json) → Decidable (a = b)
  | [], [] => isTrue rfl
  | [], _ :: _ => isFalse (by simp)
  | _ :: _, [] => isFalse (by simp)
  | x :: xs, y :: ys =>
    match decEq x y, decEqItems xs ys with
    | isTrue h, isTrue g => isTrue (by rw [h, g])
    | isFalse h, _ => isFalse (by simp [h])
    | _, isFalse g => isFalse (by simp [g])

/-- Two lists of fields are the same or not. -/
def decEqFields : (a b : List (String × Json)) → Decidable (a = b)
  | [], [] => isTrue rfl
  | [], _ :: _ => isFalse (by simp)
  | _ :: _, [] => isFalse (by simp)
  | (k, x) :: xs, (l, y) :: ys =>
    if e : k = l then
      match decEq x y, decEqFields xs ys with
      | isTrue h, isTrue g => isTrue (by rw [e, h, g])
      | isFalse h, _ => isFalse (by simp [h])
      | _, isFalse g => isFalse (by simp [g])
    else isFalse (by simp [e])

end

instance : DecidableEq Json := decEq

/-! ### Fields -/

/-- The value of the first field of a name. -/
def field? (name : String) : List (String × Json) → Option Json
  | [] => none
  | (k, v) :: rest => if k = name then some v else field? name rest

/-- The fields with one of them given a value: in its place if there is one of that name, else
at the end. -/
def setField (name : String) (value : Json) : List (String × Json) → List (String × Json)
  | [] => [(name, value)]
  | (k, v) :: rest =>
    if k = name then (k, value) :: rest else (k, v) :: setField name value rest

/-- A field that was written reads as what was written, and every other field as before. -/
theorem field?_setField (name other : String) (value : Json) (fields : List (String × Json)) :
    field? other (setField name value fields) =
      if name = other then some value else field? other fields := by
  induction fields with
  | nil => simp [setField, field?]
  | cons p rest ih =>
    obtain ⟨k, v⟩ := p
    by_cases hk : k = name
    · subst hk
      by_cases ho : k = other <;> simp [setField, field?, ho]
    · rw [setField, if_neg hk, field?, field?, ih]
      by_cases ho : k = other
      · subst ho
        simp [Ne.symm hk]
      · simp [ho]

/-- The fields of an object; other values have none. -/
def fields : Json → List (String × Json)
  | .object fs => fs
  | _ => []

/-- A field of an object; other values have none. -/
def get? (j : Json) (name : String) : Option Json :=
  match j with
  | .object fs => field? name fs
  | _ => none

/-- A field of an object, or null. -/
def getOrNull (j : Json) (name : String) : Json :=
  (j.get? name).getD .null

/-- An object with one field given a value; other values stay as they are. -/
def set (j : Json) (name : String) (value : Json) : Json :=
  match j with
  | .object fs => .object (setField name value fs)
  | other => other

/-- The value is an object. -/
def isObject : Json → Bool
  | .object _ => true
  | _ => false

/-- The text that a value is; other values count as the empty text. -/
def textOrEmpty : Json → String
  | .text s => s
  | _ => ""

/-! ### Classes of values -/

/-- Null, false, zero, and what is empty. -/
def isFalsy : Json → Bool
  | .null => true
  | .bool b => !b
  | .int n => n == 0
  | .float x => (Decimal.Binary.ofFloat x).isZero
  | .text s => s.isEmpty
  | .list items => items.isEmpty
  | .object fields => fields.isEmpty
  | .foreign _ => false

/-- The word for the shape of a value, as it stands in error messages. -/
def shapeName : Json → String
  | .null => "NoneType"
  | .bool _ => "bool"
  | .int _ => "int"
  | .float _ => "float"
  | .text _ => "str"
  | .list _ => "list"
  | .object _ => "dict"
  | .foreign v => v.shape

/-! ### Equality as values -/

/-- A truth value as a number. -/
def ofBool (b : Bool) : Int :=
  if b then 1 else 0

mutual

/-- Equality as values. -/
def same : Json → Json → Bool
  | .null, .null => true
  | .bool a, .bool b => a == b
  | .bool a, .int n | .int n, .bool a => ofBool a == n
  | .bool a, .float x | .float x, .bool a => Decimal.equalsInt x (ofBool a)
  | .int m, .int n => m == n
  | .int n, .float x | .float x, .int n => Decimal.equalsInt x n
  | .float x, .float y => x == y
  | .text s, .text t => s == t
  | .list xs, .list ys => sameItems xs ys
  | .object xs, .object ys => xs.length == ys.length && sameFields xs ys
  | .foreign v, .foreign w => v == w
  | _, _ => false

/-- Equality of lists of values, item by item. -/
def sameItems : List Json → List Json → Bool
  | [], [] => true
  | x :: xs, y :: ys => same x y && sameItems xs ys
  | _, _ => false

/-- Every field of the first list has an equal one in the second. -/
def sameFields : List (String × Json) → List (String × Json) → Bool
  | [], _ => true
  | (k, x) :: xs, ys =>
    (match field? k ys with
      | some y => same x y
      | none => false) && sameFields xs ys

end

end Json

end Driftwatch
