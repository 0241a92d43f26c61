/-
Printing JSON values.

* `indented`: every item and field on a line of its own, two columns further in than what
  holds it.
* `compact`: the whole value on one line.

Printed texts have only ASCII characters; all others are escaped as sixteen-bit units.
-/
import Driftwatch.Json.Basic
import Driftwatch.Decimal.Shortest
import Driftwatch.Text.Hex
import Driftwatch.Text.Surrogate

namespace Driftwatch.Json

namespace Printer

/-- The escape of a sixteen-bit unit. -/
def unitEscape (n : Nat) : List Char :=
  '\\' :: 'u' :: Text.hexFixed .lower 4 n

/-- A character between double quotes. -/
def char (c : Char) : List Char :=
  if c = '\x22' then ['\\', '\x22']
  else if c = '\\' then ['\\', '\\']
  else if c = '\n' then ['\\', 'n']
  else if c = '\r' then ['\\', 'r']
  else if c = '\t' then ['\\', 't']
  else if c = '\x08' then ['\\', 'b']
  else if c = '\x0c' then ['\\', 'f']
  else if 0x20 ≤ c.toNat ∧ c.toNat < 0x7f then [c]
  else (Text.unitsOfChar c).flatMap unitEscape

/-- A text between double quotes. -/
def string (s : String) : String :=
  String.ofList ('\x22' :: s.toList.flatMap char ++ ['\x22'])

/-- Numbers are written as they are shown elsewhere, but infinities and what is not a number
have the names that the reader knows. -/
def numberStyle : Decimal.Style :=
  { Decimal.plainStyle with infinity := "Infinity", notANumber := "NaN" }

/-- Where the parts of a value go. -/
structure Layout where
  /-- What stands before a part at a depth. -/
  lineBreak : Nat → String
  /-- What stands between a name and its value. -/
  colon : String

/-- The parts with a comma between each two of them, each at its own place. -/
def parts (layout : Layout) (depth : Nat) : List String → String
  | [] => ""
  | [s] => layout.lineBreak depth ++ s
  | s :: t :: rest => layout.lineBreak depth ++ s ++ "," ++ parts layout depth (t :: rest)

/-- The parts between brackets; nothing stands between them if there is no part. -/
def bracketed (layout : Layout) (depth : Nat) (opening closing : String)
    (inner : List String) : String :=
  if inner.isEmpty then opening ++ closing
  else opening ++ parts layout (depth + 1) inner ++ layout.lineBreak depth ++ closing

mutual

/-- The text of a value at a depth. -/
def value (layout : Layout) (depth : Nat) : Json → String
  | .null => "null"
  | .bool true => "true"
  | .bool false => "false"
  | .int n => toString n
  | .float x => Decimal.render numberStyle x
  | .text s => string s
  | .list xs => bracketed layout depth "[" "]" (items layout (depth + 1) xs)
  | .object fs => bracketed layout depth "\x7b" "\x7d" (members layout (depth + 1) fs)
  | .foreign v => string v.plain

/-- The texts of the items of a list. -/
def items (layout : Layout) (depth : Nat) : List Json → List String
  | [] => []
  | x :: xs => value layout depth x :: items layout depth xs

/-- The texts of the fields of an object. -/
def members (layout : Layout) (depth : Nat) : List (String × Json) → List String
  | [] => []
  | (k, x) :: fs =>
    (string k ++ layout.colon ++ value layout depth x) :: members layout depth fs

end

end Printer

/-- The value with every item and field on a line of its own. -/
def indented (j : Json) : String :=
  Printer.value
    { lineBreak := fun depth => "\n" ++ String.ofList (List.replicate (2 * depth) ' ')
      colon := ": " } 0 j

/-- The value on one line, without blanks. -/
def compact (j : Json) : String :=
  Printer.value { lineBreak := fun _ => "", colon := ":" } 0 j

end Driftwatch.Json
