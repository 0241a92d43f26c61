/-
The grammar of JSON texts.

* `IsSpaces`: the white space that can stand between tokens.
* `IsUnits`, `Quotes`: the code units of a text, and how code units stand between double quotes:
  each can be written in several ways.
* `Numeral`: how numbers are written.
* `Spells`: a text spells a value.  Values can be nested as deeply as there is room, and white
  space can stand between tokens; of two fields of one name the last gives the value.
* `IsTextOf`: the same with white space around the whole.
* `Overruns`, `OverrunsText`: there is no room for the brackets that a text begins with.

Beside standard JSON the three names `NaN`, `Infinity` and `-Infinity` spell numbers, and an integer
has no more than `Decimal.longestInteger` digits.
-/
import Driftwatch.Decimal.Reader
import Driftwatch.Json.Reader
import Driftwatch.Text.Hex
import Driftwatch.Text.Pieces
import Driftwatch.Text.Surrogate
import Mathlib.Tactic.Lemma

namespace Driftwatch.Json

/-- White space that can stand between tokens. -/
def IsSpaces (cs : List Char) : Prop :=
  ∀ c ∈ cs, c ∈ [' ', '\t', '\n', '\r']

/-! ### Texts between double quotes -/

/-- The code unit is one half of a surrogate pair. -/
def IsSurrogate (n : Nat) : Prop :=
  0xd800 ≤ n ∧ n ≤ 0xdfff

/-- The two code units are a surrogate pair. -/
def IsPair (high low : Nat) : Prop :=
  0xd800 ≤ high ∧ high ≤ 0xdbff ∧ 0xdc00 ≤ low ∧ low ≤ 0xdfff

/-- The code units of a text.  A character is one unit, or a surrogate pair if it lies beyond
`U+FFFF`; a surrogate that is not in a pair shows as the replacement character. -/
inductive IsUnits : List Char → List Nat → Prop
  | nil : IsUnits [] []
  | unit {c : Char} {cs : List Char} {us : List Nat} (rest : IsUnits cs us) :
      IsUnits (c :: cs) (c.toNat :: us)
  | pair {c : Char} {cs : List Char} {us : List Nat} {high low : Nat} (paired : IsPair high low)
      (code : c.toNat = 0x10000 + (high - 0xd800) * 0x400 + (low - 0xdc00))
      (rest : IsUnits cs us) : IsUnits (c :: cs) (high :: low :: us)
  | lone {cs : List Char} {us : List Nat} {n : Nat} (surrogate : IsSurrogate n)
      (alone : ∀ m ∈ us.head?, ¬ IsPair n m) (rest : IsUnits cs us) :
      IsUnits ('\ufffd' :: cs) (n :: us)

/-- The letters that stand for a code unit behind a backslash. -/
def shortEscapes : List (Char × Nat) :=
  [('\x22', 0x22), ('\\', 0x5c), ('/', 0x2f), ('b', 8), ('f', 12), ('n', 10), ('r', 13), ('t', 9)]

/-- A hexadecimal digit of either case. -/
def IsHexDigit (n : Nat) (c : Char) : Prop :=
  n < 16 ∧ (c = Text.hexDigit .lower n ∨ c = Text.hexDigit .upper n)

/-- How code units stand between double quotes: as they are, behind a backslash, or as four
hexadecimal digits. -/
inductive Quotes : List Nat → List Char → Prop
  | nil : Quotes [] []
  | plain {c : Char} {us : List Nat} {cs : List Char} (printed : 0x20 ≤ c.toNat)
      (unquoted : c ≠ '\x22') (unescaped : c ≠ '\\') (rest : Quotes us cs) :
      Quotes (c.toNat :: us) (c :: cs)
  | short {e : Char} {n : Nat} {us : List Nat} {cs : List Char} (escape : (e, n) ∈ shortEscapes)
      (rest : Quotes us cs) : Quotes (n :: us) ('\\' :: e :: cs)
  | hex {h₁ h₂ h₃ h₄ : Char} {a b c d : Nat} {us : List Nat} {cs : List Char}
      (first : IsHexDigit a h₁) (second : IsHexDigit b h₂) (third : IsHexDigit c h₃)
      (fourth : IsHexDigit d h₄) (rest : Quotes us cs) :
      Quotes ((((a * 16 + b) * 16 + c) * 16 + d) :: us) ('\\' :: 'u' :: h₁ :: h₂ :: h₃ :: h₄ :: cs)

/-- What stands between double quotes spells a text. -/
def SpellsText (cs : List Char) (s : String) : Prop :=
  ∃ us, Quotes us cs ∧ IsUnits s.toList us

/-! ### Numbers -/

/-- One or more decimal digits. -/
def IsDigits (cs : List Char) : Prop :=
  cs ≠ [] ∧ ∀ c ∈ cs, c.isDigit = true

/-- The digits before the point: a leading zero stands alone. -/
def IsWhole (cs : List Char) : Prop :=
  IsDigits cs ∧ (cs.head? = some '0' → cs = ['0'])

/-- The digits behind a point, if there is one. -/
inductive IsFraction : List Char → List Char → Prop
  | none : IsFraction [] []
  | point {ds : List Char} (digits : IsDigits ds) : IsFraction ('.' :: ds) ds

/-- The power of ten at the end of a number, if there is one. -/
inductive IsExponent : List Char → Int → Prop
  | none : IsExponent [] 0
  | plain {mark : Char} {sign ds : List Char} (marked : mark = 'e' ∨ mark = 'E')
      (signed : sign = [] ∨ sign = ['+']) (digits : IsDigits ds) :
      IsExponent (mark :: (sign ++ ds)) (Nat.ofDigitChars 10 ds 0)
  | minus {mark : Char} {ds : List Char} (marked : mark = 'e' ∨ mark = 'E')
      (digits : IsDigits ds) : IsExponent (mark :: '-' :: ds) (-Nat.ofDigitChars 10 ds 0)

/-- The sign of a number. -/
def minusIf (negative : Bool) : List Char :=
  if negative then ['-'] else []

/-- How numbers are written.  A number with a point or a power of ten is a floating-point number,
any other an integer. -/
inductive Numeral : List Char → Json → Prop
  | integer (negative : Bool) {ds : List Char} (whole : IsWhole ds)
      (short : ds.length ≤ Decimal.longestInteger) :
      Numeral (minusIf negative ++ ds)
        (.int (if negative then -Nat.ofDigitChars 10 ds 0 else Nat.ofDigitChars 10 ds 0))
  | float (negative : Bool) {ds fraction fs exponent : List Char} {e : Int} (whole : IsWhole ds)
      (behind : IsFraction fraction fs) (power : IsExponent exponent e)
      (inexact : fraction ≠ [] ∨ exponent ≠ []) :
      Numeral (minusIf negative ++ (ds ++ (fraction ++ exponent)))
        (.float (Decimal.toFloat negative (Nat.ofDigitChars 10 (ds ++ fs) 0) (e - fs.length)))

/-! ### Values -/

/-- A value as it stands in a list or behind the name of a field, with white space around it. -/
structure Part where
  before : List Char
  text : List Char
  after : List Char
  value : Json

/-- The part as it is written. -/
def Part.chars (p : Part) : List Char :=
  p.before ++ (p.text ++ p.after)

/-- There is nothing but white space around the value. -/
def Part.IsPadded (p : Part) : Prop :=
  IsSpaces p.before ∧ IsSpaces p.after

/-- A field of an object as it is written. -/
structure Member where
  before : List Char
  /-- What stands between the double quotes of the name. -/
  quoted : List Char
  name : String
  /-- What stands between the name and the colon. -/
  between : List Char
  part : Part

/-- The field as it is written. -/
def Member.chars (m : Member) : List Char :=
  m.before ++ '\x22' :: (m.quoted ++ '\x22' :: (m.between ++ ':' :: m.part.chars))

/-- The name is spelled between the quotes, and there is nothing but white space around it and
around the value. -/
structure Member.IsPadded (m : Member) : Prop where
  before : IsSpaces m.before
  name : SpellsText m.quoted m.name
  between : IsSpaces m.between
  part : m.part.IsPadded

/-- The fields of an object with fields that were written one after the other: the last one of a
name counts, in the place of the first. -/
def writtenFields (fields : List (String × Json)) : List (String × Json) :=
  fields.foldl (fun written p => setField p.1 p.2 written) []

/-- A text spells a value, with no more than so many brackets within one another. -/
inductive Spells : (room : Nat) → List Char → Json → Prop
  | null {room : Nat} : Spells room "null".toList .null
  | yes {room : Nat} : Spells room "true".toList (.bool true)
  | no {room : Nat} : Spells room "false".toList (.bool false)
  | notANumber {room : Nat} : Spells room "NaN".toList (.float (0.0 / 0.0))
  | infinity {room : Nat} : Spells room "Infinity".toList (.float (1.0 / 0.0))
  | minusInfinity {room : Nat} : Spells room "-Infinity".toList (.float (-(1.0 / 0.0)))
  | number {room : Nat} {cs : List Char} {j : Json} (numeral : Numeral cs j) : Spells room cs j
  | text {room : Nat} {cs : List Char} {s : String} (quoted : SpellsText cs s) :
      Spells room ('\x22' :: (cs ++ ['\x22'])) (.text s)
  | emptyList {room : Nat} {gap : List Char} (spaces : IsSpaces gap) :
      Spells (room + 1) ('[' :: (gap ++ [']'])) (.list [])
  | list {room : Nat} {parts : List Part} (some : parts ≠ []) (padded : ∀ p ∈ parts, p.IsPadded)
      (spelled : ∀ p ∈ parts, Spells room p.text p.value) :
      Spells (room + 1) ('[' :: (Text.glue ',' (parts.map Part.chars) ++ [']']))
        (.list (parts.map Part.value))
  | emptyObject {room : Nat} {gap : List Char} (spaces : IsSpaces gap) :
      Spells (room + 1) ('\x7b' :: (gap ++ ['\x7d'])) (.object [])
  | object {room : Nat} {members : List Member} (some : members ≠ [])
      (padded : ∀ m ∈ members, m.IsPadded)
      (spelled : ∀ m ∈ members, Spells room m.part.text m.part.value) :
      Spells (room + 1) ('\x7b' :: (Text.glue ',' (members.map Member.chars) ++ ['\x7d']))
        (.object (writtenFields (members.map fun m => (m.name, m.part.value))))

/-- A whole text is one of a value: it spells the value, with white space around it. -/
def IsTextOf (room : Nat) (cs : List Char) (j : Json) : Prop :=
  ∃ p : Part, cs = p.chars ∧ p.value = j ∧ p.IsPadded ∧ Spells room p.text j

/-! ### Texts without room -/

/-- What was written of a list or an object before another part begins: each part has a comma
behind it. -/
def begun (parts : List (List Char)) : List Char :=
  parts.flatMap fun p => p ++ [',']

/-- A text begins with brackets within one another, and there is no room for the last of them.
Whatever stands before it is written as it has to be; what stands behind it may be anything. -/
inductive Overruns : (room : Nat) → Reader.Bracket → List Char → Prop
  | square {rest : List Char} : Overruns 0 .square ('[' :: rest)
  | curly {rest : List Char} : Overruns 0 .curly ('\x7b' :: rest)
  | list {room : Nat} {bracket : Reader.Bracket} {parts : List Part} {gap rest : List Char}
      (padded : ∀ p ∈ parts, p.IsPadded) (spelled : ∀ p ∈ parts, Spells room p.text p.value)
      (spaces : IsSpaces gap) (inner : Overruns room bracket rest) :
      Overruns (room + 1) bracket ('[' :: (begun (parts.map Part.chars) ++ (gap ++ rest)))
  | object {room : Nat} {bracket : Reader.Bracket} {members : List Member}
      {before quoted between gap rest : List Char} {name : String}
      (padded : ∀ m ∈ members, m.IsPadded)
      (spelled : ∀ m ∈ members, Spells room m.part.text m.part.value)
      (spacesBefore : IsSpaces before) (named : SpellsText quoted name)
      (spacesBetween : IsSpaces between) (spaces : IsSpaces gap)
      (inner : Overruns room bracket rest) :
      Overruns (room + 1) bracket
        ('\x7b' :: (begun (members.map Member.chars) ++
          (before ++ '\x22' :: (quoted ++ '\x22' :: (between ++ ':' :: (gap ++ rest))))))

/-- There is no room for a whole text. -/
def OverrunsText (room : Nat) (bracket : Reader.Bracket) (cs : List Char) : Prop :=
  ∃ gap rest, cs = gap ++ rest ∧ IsSpaces gap ∧ Overruns room bracket rest

end Driftwatch.Json
