/-
**Positions in YAML text.**

Indentation gives YAML text its structure, so a position is kept with its line and column.  Both
count characters, a carriage return with a line feed is one line break, and there are three line
breaks beside them.

Main definitions:

* `Cutover.Yaml.Cursor` — the text that is left, and where it starts;
* `Cutover.Yaml.Cursor.skip`, `Cutover.Yaml.Cursor.readBreak` — steps over a character and over a
  line break.
-/

set_option autoImplicit false

namespace Cutover.Yaml

/-! ### Classes of characters -/

/-- The mark that may stand before the first character of a file. -/
def byteOrderMark : Char := '\uFEFF'

/-- Space and tab. -/
def isBlank (c : Char) : Bool := c == ' ' || c == '\t'

/-- The characters that end a line. -/
def isBreak (c : Char) : Bool :=
  c == '\r' || c == '\n' || c == '\u0085' || c == '\u2028' || c == '\u2029'

/-- Letters, digits, hyphen and underscore of ASCII, of which names are made. -/
def isWordChar (c : Char) : Bool := c.isAlphanum || c == '_' || c == '-'

/-- The characters that a document may hold: no control characters but tab and line breaks. -/
def isAllowed (c : Char) : Bool :=
  let n := c.toNat
  n == 0x9 || n == 0xA || n == 0xD || (0x20 ≤ n && n ≤ 0x7E) || n == 0x85 ||
    (0xA0 ≤ n && n ≤ 0xD7FF) || (0xE000 ≤ n && n ≤ 0xFFFD) || (0x10000 ≤ n && n ≤ 0x10FFFF)

/-! ### Positions -/

/-- The text that is left, with the position at which it starts. -/
structure Cursor where
  rest : List Char
  index : Nat
  line : Nat
  column : Nat

namespace Cursor

/-- The start of a text. -/
def start (cs : List Char) : Cursor := ⟨cs, 0, 0, 0⟩

/-- The next character. -/
def head? (c : Cursor) : Option Char := c.rest.head?

/-- Whether this character comes next. -/
def sees (c : Cursor) (x : Char) : Bool := c.head? == some x

/-- The character at a distance. -/
def ahead? (c : Cursor) (n : Nat) : Option Char := c.rest[n]?

/-- Whether the text ends here. -/
def atEnd (c : Cursor) : Bool := c.rest.isEmpty

/-- Whether a space or a tab comes next. -/
def atBlank (c : Cursor) : Bool := c.head?.any isBlank

/-- Whether a line break comes next. -/
def atBreak (c : Cursor) : Bool := c.head?.any isBreak

/-- Whether the line ends here. -/
def atLineEnd (c : Cursor) : Bool := c.atEnd || c.atBreak

/-- Whether a gap or the end of the text stands at a distance. -/
def gapAhead (c : Cursor) (n : Nat) : Bool :=
  (c.ahead? n).all (fun x => isBlank x || isBreak x)

/-- Whether a gap or the end of the text comes next. -/
def atGap (c : Cursor) : Bool := c.gapAhead 0

/-- The position after the next character. -/
def skip (c : Cursor) : Cursor :=
  match c.rest with
  | [] => c
  | _ :: rest => ⟨rest, c.index + 1, c.line, c.column + 1⟩

/-- The position after a number of characters of one line. -/
def skipMany (c : Cursor) (n : Nat) : Cursor :=
  ⟨c.rest.drop n, c.index + n, c.line, c.column + n⟩

/-- The characters that satisfy a condition, and the position after them. -/
def takeWhile (c : Cursor) (p : Char → Bool) : List Char × Cursor :=
  let taken := c.rest.takeWhile p
  (taken, c.skipMany taken.length)

/-- The position after the characters that satisfy a condition. -/
def skipWhile (c : Cursor) (p : Char → Bool) : Cursor := (c.takeWhile p).2

/-- The position after the rest of the line. -/
def skipToLineEnd (c : Cursor) : Cursor := c.skipWhile (fun x => !isBreak x)

/-- The line break that comes next, as text holds it, and the position after it. -/
def readBreak (c : Cursor) : List Char × Cursor :=
  match c.rest with
  | '\r' :: '\n' :: rest => (['\n'], ⟨rest, c.index + 2, c.line + 1, 0⟩)
  | x :: rest =>
    if isBreak x then
      let text := if x == '\u2028' || x == '\u2029' then x else '\n'
      ([text], ⟨rest, c.index + 1, c.line + 1, 0⟩)
    else ([], c)
  | [] => ([], c)

/-- The position after the line break that comes next. -/
def skipBreak (c : Cursor) : Cursor := c.readBreak.2

/-- Whether a line with a document mark starts here. -/
def atMark (c : Cursor) (x : Char) : Bool :=
  c.column == 0 && [x, x, x].isPrefixOf c.rest && c.gapAhead 3

/-- Whether a line that starts or ends a document starts here. -/
def atDocumentMark (c : Cursor) : Bool := c.atMark '-' || c.atMark '.'

end Cursor

end Cutover.Yaml
