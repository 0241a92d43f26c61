/-
Texts as scalars of YAML.

* `Style`, `Style.of`: how a text is written: plainly, between apostrophes, or between double
  quotes with escapes.
* `Place`: where a scalar stands on its line.
* `scalar`: the written text; lines are folded at a space when they have become too long.
-/
import Driftwatch.Text.Hex
import Driftwatch.Yaml.Resolution

namespace Driftwatch.Yaml

/-- The column after which lines are folded. -/
def bestWidth : Nat := 80

/-! ### Styles -/

/-- How a text is written. -/
inductive Style
  | plain
  | apostrophes
  | doubleQuotes
  deriving DecidableEq

/-- A line break of any kind. -/
def isBreak (c : Char) : Bool :=
  c == '\n' || c == '\x85' || c == '\u2028' || c == '\u2029'

/-- A character that ends an indicator. -/
def endsIndicator (c : Char) : Bool :=
  isBreak c || c == ' ' || c == '\t' || c == '\r' || c == '\x00'

/-- A text begins with a character that ends an indicator, or has no characters. -/
def atEnd : List Char → Bool
  | [] => true
  | c :: _ => endsIndicator c

/-- A character that is neither printable ASCII nor a line feed. -/
def isSpecial (c : Char) : Bool :=
  !(c == '\n' || (0x20 ≤ c.toNat && c.toNat ≤ 0x7e))

/-- The characters that have a meaning at the start of a scalar. -/
def leadingIndicators : List Char :=
  ['#', ',', '[', ']', '\x7b', '\x7d', '&', '*', '!', '|', '>', '\x27', '\x22', '%', '@', '\x60']

/-- The text begins with an indicator. -/
def startsWithIndicator : List Char → Bool
  | [] => false
  | c :: cs =>
    leadingIndicators.contains c || ((c == '?' || c == ':' || c == '-') && atEnd cs)

/-- The text begins like a document marker. -/
def startsWithMarker (cs : List Char) : Bool :=
  cs.take 3 == ['-', '-', '-'] || cs.take 3 == ['.', '.', '.']

/-- There is an indicator in the text after its first character: a colon at the end of a word, or
a number sign at the start of one. -/
def hasIndicator : List Char → Bool
  | c :: d :: cs =>
    (d == ':' && atEnd cs) || (d == '#' && endsIndicator c) || hasIndicator (d :: cs)
  | _ => false

/-- Two neighbouring characters of the text have the given properties. -/
def hasPair (p q : Char → Bool) : List Char → Bool
  | c :: d :: cs => (p c && q d) || hasPair p q (d :: cs)
  | _ => false

/-- The text begins or ends with a space or a line break. -/
def hasLooseEnd (cs : List Char) : Bool :=
  let loose (c : Char) : Bool := c == ' ' || isBreak c
  (cs.head?.map loose).getD false || (cs.getLast?.map loose).getD false

/-- The text can stand between apostrophes. -/
def fitsApostrophes (cs : List Char) : Bool :=
  !cs.any isSpecial && !hasPair (· == ' ') isBreak cs && !hasPair isBreak (· == ' ') cs

/-- The text can be written plainly. -/
def fitsPlain (cs : List Char) : Bool :=
  fitsApostrophes cs && !cs.any isBreak && !hasLooseEnd cs && !startsWithMarker cs &&
    !startsWithIndicator cs && !hasIndicator cs && !isReserved cs

/-- The style of a text: the first that it fits. -/
def Style.of (cs : List Char) : Style :=
  if fitsPlain cs then .plain
  else if fitsApostrophes cs then .apostrophes
  else .doubleQuotes

/-! ### Writing -/

/-- Where a scalar stands. -/
structure Place where
  /-- The column at which folded lines go on. -/
  indent : Nat
  /-- The column of the scalar's first character. -/
  column : Nat
  /-- Lines may be folded. -/
  folds : Bool

/-- A new line with its indentation. -/
def newLine (indent : Nat) : List Char :=
  '\n' :: List.replicate indent ' '

/-- A text without line breaks, after a number of spaces that are still to be written.  A single
space becomes a new line if the line has become too long. -/
def plainText (p : Place) : (column spaces : Nat) → List Char → List Char
  | _, spaces, [] => List.replicate spaces ' '
  | column, spaces, c :: cs =>
    if c = ' ' then plainText p column (spaces + 1) cs
    else if spaces = 1 ∧ bestWidth < column ∧ p.folds then
      newLine p.indent ++ c :: plainText p (p.indent + 1) 0 cs
    else List.replicate spaces ' ' ++ c :: plainText p (column + spaces + 1) 0 cs

/-- What came before in a text between apostrophes. -/
inductive Before
  /-- Nothing but spaces. -/
  | start
  /-- A character other than a line feed. -/
  | inLine
  /-- A line feed. -/
  | lineFeed

/-- A text between apostrophes, after a number of spaces that are still to be written.  An
apostrophe is written twice, and so is the first of several line feeds. -/
def apostropheText (p : Place) :
    (before : Before) → (column spaces : Nat) → List Char → List Char
  | .lineFeed, _, _, [] => List.replicate p.indent ' '
  | _, _, spaces, [] => List.replicate spaces ' '
  | before, column, spaces, c :: cs =>
    if c = '\n' then
      match before with
      | .lineFeed => '\n' :: apostropheText p .lineFeed 0 0 cs
      | _ => List.replicate spaces ' ' ++ '\n' :: '\n' :: apostropheText p .lineFeed 0 0 cs
    else
      match before with
      | .lineFeed =>
        List.replicate p.indent ' ' ++
          if c = ' ' then apostropheText p .inLine p.indent 1 cs
          else if c = '\x27' then
            '\x27' :: '\x27' :: apostropheText p .inLine (p.indent + 2) 0 cs
          else c :: apostropheText p .inLine (p.indent + 1) 0 cs
      | _ =>
        if c = ' ' then apostropheText p before column (spaces + 1) cs
        else
          let folded : Bool :=
            match before with
            | .inLine => spaces == 1 && bestWidth < column && p.folds
            | _ => false
          let gap := if folded then newLine p.indent else List.replicate spaces ' '
          let column := if folded then p.indent else column + spaces
          gap ++
            if c = '\x27' then '\x27' :: '\x27' :: apostropheText p .inLine (column + 2) 0 cs
            else c :: apostropheText p .inLine (column + 1) 0 cs

/-- The letter that stands for a character after a backslash. -/
def escapeLetter? (c : Char) : Option Char :=
  [('\x00', '0'), ('\x07', 'a'), ('\x08', 'b'), ('\t', 't'), ('\n', 'n'), ('\x0b', 'v'),
    ('\x0c', 'f'), ('\r', 'r'), ('\x1b', 'e'), ('\x22', '\x22'), ('\\', '\\'), ('\x85', 'N'),
    ('\xa0', '_'), ('\u2028', 'L'), ('\u2029', 'P')].lookup c

/-- The escape of a character between double quotes, if it needs one. -/
def escape? (c : Char) : Option (List Char) :=
  match escapeLetter? c with
  | some letter => some ['\\', letter]
  | none =>
    let n := c.toNat
    if 0x20 ≤ n ∧ n ≤ 0x7e then none
    else if n ≤ 0xff then some ('\\' :: 'x' :: Text.hexFixed .upper 2 n)
    else if n ≤ 0xffff then some ('\\' :: 'u' :: Text.hexFixed .upper 4 n)
    else some ('\\' :: 'U' :: Text.hexFixed .upper 8 n)

/-- A fold between double quotes: a backslash ends the line, and another one stands before a
space that the next line begins with.  The answer has the column after it as well. -/
def quotedFold (p : Place) (next : List Char) : List Char × Nat :=
  match next with
  | ' ' :: _ => ('\\' :: newLine p.indent ++ ['\\'], p.indent + 1)
  | _ => ('\\' :: newLine p.indent, p.indent)

/-- A text between double quotes.  `pending` holds the characters, last one first, that are
still to be written and that the column does not count. -/
def quotedText (p : Place) :
    (isFirst : Bool) → (pending : List Char) → (column : Nat) → List Char → List Char
  | _, pending, _, [] => pending.reverse
  | isFirst, pending, column, c :: cs =>
    let inside := !isFirst && !cs.isEmpty && p.folds
    match escape? c with
    | some e =>
      let column := column + pending.length + e.length
      pending.reverse ++ e ++
        if inside && bestWidth + 1 < column then
          let (fold, column) := quotedFold p cs
          fold ++ quotedText p false [] column cs
        else quotedText p false [] column cs
    | none =>
      if inside && (c == ' ' || pending.isEmpty) && bestWidth < column + pending.length then
        let (fold, column) := quotedFold p (c :: cs)
        pending.reverse ++ fold ++ quotedText p false [c] column cs
      else quotedText p false (c :: pending) column cs

/-- A text as a scalar at a place. -/
def scalar (p : Place) (cs : List Char) : List Char :=
  match Style.of cs with
  | .plain => plainText p p.column 0 cs
  | .apostrophes => '\x27' :: apostropheText p .start (p.column + 1) 0 cs ++ ['\x27']
  | .doubleQuotes => '\x22' :: quotedText p true [] (p.column + 1) cs ++ ['\x22']

end Driftwatch.Yaml
