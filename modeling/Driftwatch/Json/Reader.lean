/-
Reading JSON texts.

* `Reader.value`: the value at the start of a text, with what follows it.
* `Reader.Unread`: why a text is not read: it is not JSON, or it is nested too deeply.
* `read`, `read?`: the value that a whole text stands for.

Beside standard JSON the three names `NaN`, `Infinity` and `-Infinity` are read as numbers.
A number with a point or an exponent is a floating-point number, any other an integer, which must
not be longer than `Decimal.longestInteger`.  Of two fields of one name the last gives the value.
-/
import Driftwatch.Json.Basic
import Driftwatch.Decimal.Reader
import Driftwatch.Text.Hex
import Driftwatch.Text.Surrogate

namespace Driftwatch.Json.Reader

/-- A value read from the start of a text, and what follows it. -/
abbrev Read (α : Type) := Option (α × List Char)

/-- A bracket that opens a list or an object. -/
inductive Bracket
  | square
  | curly
  deriving DecidableEq

/-- What a bracket opens. -/
def Bracket.shape : Bracket → String
  | .square => "array"
  | .curly => "object"

/-- Why a text is not read. -/
inductive Unread
  /-- The text is not JSON. -/
  | malformed
  /-- There is no room for the bracket that opens next. -/
  | tooDeep (bracket : Bracket)
  deriving DecidableEq

/-- A value read from the start of a text, and what follows it, or why there is none. -/
abbrev Attempt (α : Type) := Except Unread (α × List Char)

/-- A text without the value that was looked for is malformed. -/
def attempt {α : Type} : Read α → Attempt α
  | some r => .ok r
  | none => .error .malformed

/-- Space, tab, line feed and carriage return may stand between tokens. -/
def isSpace (c : Char) : Bool :=
  c == ' ' || c == '\t' || c == '\n' || c == '\r'

/-- A text without the space at its start. -/
def skipSpace (cs : List Char) : List Char :=
  cs.dropWhile isSpace

/-! ### Texts between double quotes -/

/-- What a letter after a backslash stands for. -/
def escaped? (c : Char) : Option Nat :=
  if c = '\x22' then some 0x22
  else if c = '\\' then some 0x5c
  else if c = '/' then some 0x2f
  else if c = 'b' then some 8
  else if c = 'f' then some 12
  else if c = 'n' then some 10
  else if c = 'r' then some 13
  else if c = 't' then some 9
  else none

/-- The number with four hexadecimal digits. -/
def hexUnit? (a b c d : Char) : Option Nat := do
  let a ← Text.hexValue? a
  let b ← Text.hexValue? b
  let c ← Text.hexValue? c
  let d ← Text.hexValue? d
  return ((a * 16 + b) * 16 + c) * 16 + d

/-- A code unit before those that were read. -/
def before (n : Nat) (r : Read (List Nat)) : Read (List Nat) :=
  r.map fun p => (n :: p.1, p.2)

/-- The code units up to the closing double quote. -/
def units : List Char → Read (List Nat)
  | [] => none
  | c :: cs =>
    if c = '\x22' then some ([], cs)
    else if c = '\\' then
      match cs with
      | [] => none
      | e :: es =>
        if e = 'u' then
          match es with
          | h₁ :: h₂ :: h₃ :: h₄ :: rest =>
            match hexUnit? h₁ h₂ h₃ h₄ with
            | some n => before n (units rest)
            | none => none
          | _ => none
        else
          match escaped? e with
          | some n => before n (units es)
          | none => none
    else if c.toNat < 0x20 then none
    else before c.toNat (units cs)

/-- The text up to the closing double quote. -/
def string (cs : List Char) : Read String :=
  (units cs).map fun p => (String.ofList (Text.charsOfUnits p.1), p.2)

/-! ### Numbers -/

/-- The value of a decimal digit. -/
def digit (c : Char) : Nat :=
  c.toNat - 48

/-- The digits at the start of a text; there must be one. -/
def digits (cs : List Char) : Read (List Nat) :=
  let ds := cs.takeWhile Char.isDigit
  if ds.isEmpty then none else some (ds.map digit, cs.dropWhile Char.isDigit)

/-- The digits before the point: a leading zero stands alone. -/
def whole (cs : List Char) : Read (List Nat) :=
  match digits cs with
  | some (0 :: _ :: _, _) => none
  | other => other

/-- The digits after the point, if there is one. -/
def fraction (cs : List Char) : Read (Option (List Nat)) :=
  match cs with
  | '.' :: rest => (digits rest).map fun p => (some p.1, p.2)
  | _ => some (none, cs)

/-- The power of ten, if there is one. -/
def exponent (cs : List Char) : Read (Option Int) :=
  match cs with
  | c :: rest =>
    if c = 'e' ∨ c = 'E' then
      let (negative, rest) := Decimal.signed rest
      (digits rest).map fun p =>
        let n : Int := Decimal.ofDigits p.1
        (some (if negative then -n else n), p.2)
    else some (none, cs)
  | [] => some (none, cs)

/-- The number with given digits: an integer, which must not be too long, if it has neither a
point nor an exponent. -/
def assemble (negative : Bool) (ds : List Nat) : Option (List Nat) → Option Int → Option Json
  | none, none =>
    let n : Int := Decimal.ofDigits ds
    if ds.length ≤ Decimal.longestInteger then some (.int (if negative then -n else n)) else none
  | fs, e =>
    let fs := fs.getD []
    some <| .float <|
      Decimal.toFloat negative (Decimal.ofDigits (ds ++ fs)) (e.getD 0 - fs.length)

/-- A number without its sign. -/
def magnitude (negative : Bool) (cs : List Char) : Read Json :=
  match whole cs with
  | none => none
  | some (ds, cs) =>
    match fraction cs with
    | none => none
    | some (fs, cs) =>
      match exponent cs with
      | none => none
      | some (e, cs) => (assemble negative ds fs e).map fun x => (x, cs)

/-- A number. -/
def number (cs : List Char) : Read Json :=
  match cs with
  | '-' :: rest => magnitude true rest
  | _ => magnitude false cs

/-! ### Values -/

/-- The names of values. -/
def names : List (List Char × Json) :=
  [("null".toList, .null), ("true".toList, .bool true), ("false".toList, .bool false),
    ("NaN".toList, .float (0.0 / 0.0)), ("Infinity".toList, .float (1.0 / 0.0)),
    ("-Infinity".toList, .float (-(1.0 / 0.0)))]

/-- A value that has a name. -/
def named (cs : List Char) : Read Json :=
  names.findSome? fun p => (p.1.isPrefixOf? cs).map fun rest => (p.2, rest)

mutual

/-- The value at the start of a text.  There is room for so many brackets within one another, and a
bracket beyond that is not looked into. -/
def value : (room fuel : Nat) → List Char → Attempt Json
  | _, 0, _ => .error .malformed
  | room, fuel + 1, cs =>
    match cs with
    | [] => .error .malformed
    | c :: rest =>
      if c = '\x22' then attempt ((string rest).map fun p => (.text p.1, p.2))
      else if c = '[' then
        match room with
        | 0 => .error (.tooDeep .square)
        | room + 1 =>
          match skipSpace rest with
          | ']' :: rest => .ok (.list [], rest)
          | rest => (items room fuel rest).map fun p => (.list p.1, p.2)
      else if c = '\x7b' then
        match room with
        | 0 => .error (.tooDeep .curly)
        | room + 1 =>
          match skipSpace rest with
          | '\x7d' :: rest => .ok (.object [], rest)
          | rest => (members room fuel [] rest).map fun p => (.object p.1, p.2)
      else
        match named cs with
        | some r => .ok r
        | none => attempt (number cs)

/-- The items of a list up to its closing bracket. -/
def items : (room fuel : Nat) → List Char → Attempt (List Json)
  | _, 0, _ => .error .malformed
  | room, fuel + 1, cs =>
    match value room fuel cs with
    | .error e => .error e
    | .ok (x, rest) =>
      match skipSpace rest with
      | ']' :: rest => .ok ([x], rest)
      | ',' :: rest => (items room fuel (skipSpace rest)).map fun p => (x :: p.1, p.2)
      | _ => .error .malformed

/-- The fields of an object up to its closing brace, after those that were read. -/
def members : (room fuel : Nat) → List (String × Json) → List Char →
    Attempt (List (String × Json))
  | _, 0, _, _ => .error .malformed
  | room, fuel + 1, fields, cs =>
    match cs with
    | '\x22' :: rest =>
      match string rest with
      | none => .error .malformed
      | some (name, rest) =>
        match skipSpace rest with
        | ':' :: rest =>
          match value room fuel (skipSpace rest) with
          | .error e => .error e
          | .ok (x, rest) =>
            let fields := setField name x fields
            match skipSpace rest with
            | '\x7d' :: rest => .ok (fields, rest)
            | ',' :: rest => members room fuel fields (skipSpace rest)
            | _ => .error .malformed
        | _ => .error .malformed
    | _ => .error .malformed

end

/-- The value that a whole text stands for. -/
def wholeText (room : Nat) (cs : List Char) : Except Unread Json :=
  match value room (2 * cs.length + 2) (skipSpace cs) with
  | .ok (j, rest) => if (skipSpace rest).isEmpty then .ok j else .error .malformed
  | .error e => .error e

end Driftwatch.Json.Reader

namespace Driftwatch.Json

/-- The value that a text stands for, with room for so many brackets within one another. -/
def read (room : Nat) (s : String) : Except Reader.Unread Json :=
  Reader.wholeText room s.toList

/-- The value that a text stands for, if it is JSON; there is room for all its brackets. -/
def read? (s : String) : Option Json :=
  (read s.length s).toOption

end Driftwatch.Json
