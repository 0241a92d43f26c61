/-
Printing JSON values as YAML in block style.

* `sorted`: a value with the fields of all its objects in the order of their names.
* `print`: the value as a document: a field or an item to a line, items of a list in a field no
  further in than the field.
-/
import Driftwatch.Decimal.Shortest
import Driftwatch.Json.Basic
import Driftwatch.Yaml.Scalar

namespace Driftwatch.Yaml

/-! ### Order -/

/-- A field among others that are in order. -/
def insertField (field : String × Json) : List (String × Json) → List (String × Json)
  | [] => [field]
  | other :: rest =>
    if field.1 < other.1 then field :: other :: rest else other :: insertField field rest

mutual

/-- The value with the fields of all its objects in order. -/
def sorted : Json → Json
  | .list items => .list (sortedItems items)
  | .object fields => .object (sortedFields fields)
  | other => other

/-- The items, each with its fields in order. -/
def sortedItems : List Json → List Json
  | [] => []
  | x :: xs => sorted x :: sortedItems xs

/-- The fields in order. -/
def sortedFields : List (String × Json) → List (String × Json)
  | [] => []
  | (name, x) :: rest => insertField (name, sorted x) (sortedFields rest)

end

/-! ### Scalars -/

/-- Numbers have the names of YAML for infinities and for what is not a number. -/
def numberStyle : Decimal.Style :=
  { Decimal.plainStyle with infinity := ".inf", notANumber := ".nan" }

/-- A number has a point even if it has an exponent. -/
def withPoint (cs : List Char) : List Char :=
  if cs.contains '.' then cs
  else cs.flatMap fun c => if c = 'e' then ['.', '0', 'e'] else [c]

/-- The text of a value without parts. -/
def atom (p : Place) : Json → List Char
  | .null => "null".toList
  | .bool true => "true".toList
  | .bool false => "false".toList
  | .int n => (toString n).toList
  | .float x => withPoint (Decimal.render numberStyle x).toList
  | .text s => scalar p s.toList
  | .list _ => ['[', ']']
  | .object _ => ['\x7b', '\x7d']
  | .foreign v => scalar p v.plain.toList

/-! ### Blocks -/

/-- The longest name that may stand before a colon on one line; longer ones get a line of their
own. -/
def longestName : Nat := 122

/-- The name can stand before a colon. -/
def isSimpleName (cs : List Char) : Bool :=
  !cs.isEmpty && !cs.any isBreak && cs.length ≤ longestName

/-- A name before a colon. -/
def simpleName (indent : Nat) (cs : List Char) : List Char :=
  scalar { indent := indent + 2, column := indent, folds := false } cs

/-- Lines at an indentation, one after the other. -/
def lines (indent : Nat) : List (List Char) → List Char
  | [] => []
  | [l] => l
  | l :: m :: rest => l ++ newLine indent ++ lines indent (m :: rest)

mutual

/-- A value after an indicator of one character at an indentation: blocks go on in the same
line. -/
def afterMark (indent : Nat) : Json → List Char
  | .list (x :: xs) => ' ' :: lines (indent + 2) (itemLines (indent + 2) (x :: xs))
  | .object (f :: fs) => ' ' :: lines (indent + 2) (fieldLines (indent + 2) (f :: fs))
  | other => ' ' :: atom { indent := indent + 2, column := indent + 2, folds := true } other

/-- A value after a name and a colon, with the next column: blocks start in the next line. -/
def afterName (indent column : Nat) : Json → List Char
  | .list (x :: xs) => newLine indent ++ lines indent (itemLines indent (x :: xs))
  | .object (f :: fs) =>
    newLine (indent + 2) ++ lines (indent + 2) (fieldLines (indent + 2) (f :: fs))
  | other => ' ' :: atom { indent := indent + 2, column := column + 1, folds := true } other

/-- The items of a list, each with its mark. -/
def itemLines (indent : Nat) : List Json → List (List Char)
  | [] => []
  | x :: xs => ('-' :: afterMark indent x) :: itemLines indent xs

/-- The fields of an object. -/
def fieldLines (indent : Nat) : List (String × Json) → List (List Char)
  | [] => []
  | (name, x) :: rest =>
    (if isSimpleName name.toList then
      let written := simpleName indent name.toList
      written ++ ':' :: afterName indent (indent + written.length + 1) x
    else
      '?' :: afterMark indent (.text name) ++ newLine indent ++ ':' :: afterMark indent x) ::
      fieldLines indent rest

end

/-- The value as a document. -/
def print (j : Json) : String :=
  let body :=
    match sorted j with
    | .list (x :: xs) => lines 0 (itemLines 0 (x :: xs))
    | .object (f :: fs) => lines 0 (fieldLines 0 (f :: fs))
    | other => atom { indent := 2, column := 0, folds := true } other
  String.ofList (body ++ ['\n'])

end Driftwatch.Yaml
