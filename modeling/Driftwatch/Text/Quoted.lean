/-
Quoted texts, as they stand in reasons, log lines and error messages.

* `quoteMark`: the mark around a text, an apostrophe unless the text has apostrophes and no
  double quotes.
* `escape`: how one character stands between the marks.
* `quote`: the quoted text.
-/
import Driftwatch.Text.Hex
import Driftwatch.Text.Printable

namespace Driftwatch.Text

/-- The apostrophe, the usual quotation mark. -/
def apostrophe : Char := '\x27'

/-- The double quote, used around texts with apostrophes. -/
def doubleQuote : Char := '\x22'

/-- The mark that is put around a text. -/
def quoteMark (cs : List Char) : Char :=
  if cs.contains apostrophe && !cs.contains doubleQuote then doubleQuote else apostrophe

/-- The numeric escape of a character, as short as its code point admits. -/
def numericEscape (c : Char) : List Char :=
  if c.toNat < 0x100 then '\\' :: 'x' :: hexFixed .lower 2 c.toNat
  else if c.toNat < 0x10000 then '\\' :: 'u' :: hexFixed .lower 4 c.toNat
  else '\\' :: 'U' :: hexFixed .lower 8 c.toNat

/-- A character between quotation marks: the mark itself and the backslash have a backslash
before them, and what is not printable has an escape. -/
def escape (mark c : Char) : List Char :=
  if c = mark || c = '\\' then ['\\', c]
  else if c = '\n' then ['\\', 'n']
  else if c = '\r' then ['\\', 'r']
  else if c = '\t' then ['\\', 't']
  else if isPrintable c then [c]
  else numericEscape c

/-- The characters of a quoted text. -/
def quoteChars (cs : List Char) : List Char :=
  let mark := quoteMark cs
  mark :: cs.flatMap (escape mark) ++ [mark]

/-- The text between quotation marks. -/
def quote (s : String) : String :=
  String.ofList (quoteChars s.toList)

end Driftwatch.Text
