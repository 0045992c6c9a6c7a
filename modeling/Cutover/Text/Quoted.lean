/-
**Quoted text.**

Messages quote resource names and lists of them so that blanks and control characters in a name
can be told from the message around it.  A quoted text stands between double quotes; inside, a
double quote and a backslash follow a backslash, tab, carriage return, line feed and NUL have
their short escapes, and every other character without a visible form is written by its code
point in braces.

Main definitions:

* `Cutover.Text.quote`, `Cutover.Text.quoteList` — one text, and a bracketed list of them.
-/
import Cutover.Text.Escaped

set_option autoImplicit false

namespace Cutover.Text

/-- The digits of a number in base sixteen, in lower case and without leading zeros. -/
def hexDigits (n : Nat) : List Char := Nat.toDigits 16 n

/-- How a character is written between double quotes. -/
def quoteChar (c : Char) : List Char :=
  if c = '\x00' then ['\\', '0']
  else if c = '\t' then ['\\', 't']
  else if c = '\r' then ['\\', 'r']
  else if c = '\n' then ['\\', 'n']
  else if c = '\\' then ['\\', '\\']
  else if c = '\x22' then ['\\', '\x22']
  else if isEscaped c then ['\\', 'u', '\x7b'] ++ hexDigits c.toNat ++ ['\x7d']
  else [c]

/-- A text between double quotes, with its escapes. -/
def quote (s : String) : String :=
  String.ofList ('\x22' :: s.toList.flatMap quoteChar ++ ['\x22'])

/-- A list of quoted texts between brackets. -/
def quoteList (l : List String) : String :=
  "[" ++ String.intercalate ", " (l.map quote) ++ "]"

end Cutover.Text
