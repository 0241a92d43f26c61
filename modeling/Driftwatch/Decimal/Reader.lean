/-
Reading decimal numerals.

* `ofDigits`: the natural number with given digits.
* `longestInteger`: how long the numeral of an integer may be.
* `toFloat`: the floating-point number nearest to a decimal one.
* `Numeral`: a sign with an infinity, "not a number", or digits and a power of ten.
* `Numeral.read?`: the numeral in a text: blanks around it, a sign, single underscores between
  digits and digits of any script are admitted, and names are read in any case.
* `read?`: the number in a text.
-/
import Driftwatch.Decimal.Binary
import Driftwatch.Text.Blank
import Driftwatch.Text.Digit

namespace Driftwatch.Decimal

/-- The natural number with the given decimal digits, the first one leading. -/
def ofDigits (ds : List Nat) : Nat :=
  ds.foldl (fun n d => 10 * n + d) 0

/-- The greatest number of digits of an integer that is read or written. -/
def longestInteger : Nat := 4300

/-- The floating-point number nearest to `± mantissa * 10 ^ exponent`.  Beyond `10 ^ 310` all
numbers are infinite, and below `10 ^ -330` all are zero. -/
def toFloat (negative : Bool) (mantissa : Nat) (exponent : Int) : Float :=
  let lead := exponent + (Nat.toDigits 10 mantissa).length
  let magnitude :=
    if mantissa = 0 then 0.0
    else if 310 < lead then 1.0 / 0.0
    else if lead < -330 then 0.0
    else Float.ofScientific mantissa (exponent < 0) exponent.natAbs
  if negative then -magnitude else magnitude

/-- A number as it is written. -/
inductive Numeral
  | notANumber
  | infinite (negative : Bool)
  /-- The number `mantissa * 10 ^ exponent`, or its opposite. -/
  | finite (negative : Bool) (mantissa : Nat) (exponent : Int)
  deriving DecidableEq

/-- The floating-point number that a numeral stands for. -/
def Numeral.toFloat : Numeral → Float
  | .notANumber => 0.0 / 0.0
  | .infinite negative => if negative then -(1.0 / 0.0) else 1.0 / 0.0
  | .finite negative m e => Decimal.toFloat negative m e

/-- Digits that go on after a digit, an underscore before each of them admitted, and what
follows them. -/
def moreDigits : List Char → List Nat × List Char
  | [] => ([], [])
  | [c] =>
    match Text.digitValue? c with
    | some d => ([d], [])
    | none => ([], [c])
  | c :: c' :: cs =>
    match Text.digitValue? c with
    | some d => let (ds, rest) := moreDigits (c' :: cs); (d :: ds, rest)
    | none =>
      match (if c = '_' then Text.digitValue? c' else none) with
      | some d => let (ds, rest) := moreDigits cs; (d :: ds, rest)
      | none => ([], c :: c' :: cs)

/-- The digits at the start of a text and what follows them. -/
def digitRun : List Char → List Nat × List Char
  | [] => ([], [])
  | c :: cs =>
    match Text.digitValue? c with
    | some d => let (ds, rest) := moreDigits cs; (d :: ds, rest)
    | none => ([], c :: cs)

/-- A sign at the start of a text, true for a minus, and what follows it. -/
def signed : List Char → Bool × List Char
  | '+' :: cs => (false, cs)
  | '-' :: cs => (true, cs)
  | cs => (false, cs)

/-- The power of ten at the end of a numeral: nothing at all, or a letter and an integer. -/
def exponent? : List Char → Option Int
  | [] => some 0
  | c :: cs =>
    if c = 'e' ∨ c = 'E' then
      let (negative, cs) := signed cs
      match digitRun cs with
      | ([], _) | (_, _ :: _) => none
      | (ds, []) => some (if negative then -(ofDigits ds : Int) else ofDigits ds)
    else none

/-- An unsigned numeral made of digits, a point and a power of ten. -/
def magnitude? (negative : Bool) (cs : List Char) : Option Numeral :=
  let (whole, rest) := digitRun cs
  let (fraction, rest) :=
    match rest with
    | '.' :: rest => digitRun rest
    | rest => ([], rest)
  if whole.isEmpty && fraction.isEmpty then none
  else (exponent? rest).map fun e =>
    .finite negative (ofDigits (whole ++ fraction)) (e - fraction.length)

/-- A blank around a numeral; the separators U+001C to U+001F are not among them. -/
def isPadding (c : Char) : Bool :=
  Text.isBlank c && !(28 ≤ c.toNat && c.toNat ≤ 31)

/-- The numeral in a text. -/
def Numeral.read? (s : String) : Option Numeral :=
  let cs := ((s.toList.dropWhile isPadding).reverse.dropWhile isPadding).reverse
  let (negative, cs) := signed cs
  let name := String.ofList (cs.map Char.toLower)
  if name = "inf" ∨ name = "infinity" then some (.infinite negative)
  else if name = "nan" then some .notANumber
  else magnitude? negative cs

/-- The number in a text. -/
def read? (s : String) : Option Float :=
  (Numeral.read? s).map Numeral.toFloat

end Driftwatch.Decimal
