/-
Which plain scalars of YAML 1.1 stand for something other than a text.

* `isTruth`, `isNull`, `isInteger`, `isFloat`, `isTimestamp`: the forms of the scalar types.
* `isReserved`: a text that would be read back as something else if it were written plainly.
-/
import Driftwatch.Text.Hex
import Driftwatch.Text.Pieces

namespace Driftwatch.Yaml

/-- A text and its form with a capital first letter and in capitals. -/
def cases (word : String) : List (List Char) :=
  let lower := word.toList
  let capital :=
    match lower with
    | [] => []
    | c :: cs => c.toUpper :: cs
  [lower, capital, lower.map Char.toUpper]

/-- The names of truth values. -/
def isTruth (cs : List Char) : Bool :=
  ((["yes", "no", "true", "false", "on", "off"].flatMap cases).contains cs)

/-- The names of null. -/
def isNull (cs : List Char) : Bool :=
  cs.isEmpty || cs == ['~'] || (cases "null").contains cs

/-! ### Numbers -/

/-- A digit, or an underscore between digits. -/
def isDigitOrBar (c : Char) : Bool :=
  c.isDigit || c == '_'

/-- Digits and underscores with a digit of the given class in front. -/
def isDigits (leading : Char → Bool) : List Char → Bool
  | [] => false
  | c :: cs => leading c && cs.all isDigitOrBar

/-- A digit other than zero. -/
def isPositiveDigit (c : Char) : Bool :=
  c.isDigit && c != '0'

/-- One or two digits of base sixty. -/
def isSixtieth : List Char → Bool
  | [d] => d.isDigit
  | [t, d] => '0' ≤ t && t ≤ '5' && d.isDigit
  | _ => false

/-- A number in base sixty, with colons between its places. -/
def isSexagesimal (leading : Char → Bool) (cs : List Char) : Bool :=
  match Text.pieces ':' cs with
  | first :: second :: rest => isDigits leading first && (second :: rest).all isSixtieth
  | _ => false

/-- A text without the sign in front of it. -/
def unsigned : List Char → List Char
  | '+' :: cs => cs
  | '-' :: cs => cs
  | cs => cs

/-- A text that is not empty and has characters of one class only. -/
def isRun (p : Char → Bool) (cs : List Char) : Bool :=
  !cs.isEmpty && cs.all p

/-- An integer: binary, octal, decimal, hexadecimal or in base sixty. -/
def isInteger (cs : List Char) : Bool :=
  let cs := unsigned cs
  cs == ['0'] || isDigits isPositiveDigit cs || isSexagesimal isPositiveDigit cs ||
    match cs with
    | '0' :: 'b' :: rest => isRun (fun c => c == '0' || c == '1' || c == '_') rest
    | '0' :: 'x' :: rest => isRun (fun c => (Text.hexValue? c).isSome || c == '_') rest
    | '0' :: rest => isRun (fun c => '0' ≤ c && c ≤ '7' || c == '_') rest
    | _ => false

/-- The power of ten at the end of a number; it must have a sign. -/
def isExponent : List Char → Bool
  | [] => true
  | e :: s :: cs => (e == 'e' || e == 'E') && (s == '+' || s == '-') && isRun Char.isDigit cs
  | _ => false

/-- The digits after a point, with a power of ten behind them. -/
def isFraction (cs : List Char) : Bool :=
  isExponent (cs.dropWhile isDigitOrBar)

/-- A floating-point number: it has a point, or it is an infinity or not a number. -/
def isFloat (cs : List Char) : Bool :=
  (match Text.pieces '.' (unsigned cs) with
    | [whole, fraction] =>
      isDigits Char.isDigit whole && isFraction fraction ||
        isSexagesimal Char.isDigit whole && fraction.all isDigitOrBar ||
        whole.isEmpty && ["inf", "Inf", "INF"].any fun name => name.toList == fraction
    | _ => false) ||
    match cs with
    | '.' :: d :: rest => d.isDigit && isFraction rest
    | _ => false

/-- What is not a number. -/
def isNotANumber (cs : List Char) : Bool :=
  [".nan", ".NaN", ".NAN"].any fun name => name.toList == cs

/-! ### Points in time -/

/-- What follows a number of at least `least` and at most `most` digits. -/
def afterDigits (least most : Nat) (cs : List Char) : Option (List Char) :=
  let n := (cs.takeWhile Char.isDigit).length
  if least ≤ n ∧ n ≤ most then some (cs.drop n) else none

/-- What follows a character. -/
def afterChar (c : Char) : List Char → Option (List Char)
  | [] => none
  | d :: cs => if d = c then some cs else none

/-- A blank or a tab. -/
def isGap (c : Char) : Bool :=
  c == ' ' || c == '\t'

/-- What follows the separator between a date and a time of day. -/
def afterSeparator : List Char → Option (List Char)
  | [] => none
  | c :: cs =>
    if c = 'T' ∨ c = 't' then some cs
    else if isGap c then some (cs.dropWhile isGap)
    else none

/-- What follows the fraction of a second, if there is one. -/
def afterFraction : List Char → List Char
  | '.' :: cs => cs.dropWhile Char.isDigit
  | cs => cs

/-- Nothing, or a time zone. -/
def isZone (cs : List Char) : Bool :=
  cs.isEmpty ||
    match cs.dropWhile isGap with
    | ['Z'] => true
    | s :: rest =>
      (s == '+' || s == '-') &&
        match afterDigits 1 2 rest with
        | some [] => true
        | some (':' :: minutes) => afterDigits 2 2 minutes == some []
        | _ => false
    | [] => false

/-- A date with four, two and two digits. -/
def isDate (cs : List Char) : Bool :=
  (do
    let cs ← afterChar '-' (← afterDigits 4 4 cs)
    let cs ← afterChar '-' (← afterDigits 2 2 cs)
    afterDigits 2 2 cs) == some []

/-- A date with a time of day. -/
def isMoment (cs : List Char) : Bool :=
  match (do
    let cs ← afterChar '-' (← afterDigits 4 4 cs)
    let cs ← afterChar '-' (← afterDigits 1 2 cs)
    let cs ← afterSeparator (← afterDigits 1 2 cs)
    let cs ← afterChar ':' (← afterDigits 1 2 cs)
    let cs ← afterChar ':' (← afterDigits 2 2 cs)
    afterDigits 2 2 cs) with
  | some rest => isZone (afterFraction rest)
  | none => false

/-- A point in time. -/
def isTimestamp (cs : List Char) : Bool :=
  isDate cs || isMoment cs

/-- The text would be read back as something else. -/
def isReserved (cs : List Char) : Bool :=
  isTruth cs || isNull cs || isInteger cs || isFloat cs || isNotANumber cs || isTimestamp cs ||
    cs == ['<', '<'] || cs == ['=']

end Driftwatch.Yaml
