/-
**Scalars in YAML text.**

A scalar is written plain, between quotes, or as an indented block.  Line breaks inside plain and
quoted scalars are folded: one alone becomes a space, and of several the first is dropped.

Main definitions:

* `Cutover.Yaml.readPlain`, `Cutover.Yaml.readQuoted`, `Cutover.Yaml.readBlock` — a scalar and the
  position after it, or nothing where the text is malformed.
-/
import Cutover.Yaml.Cursor
import Cutover.Yaml.Token

set_option autoImplicit false

namespace Cutover.Yaml

/-! ### Gaps inside a scalar -/

/-- Blanks and line breaks between two words of a scalar.  The lists are in reverse. -/
structure Gap where
  blanks : List Char
  hasBreak : Bool
  first : List Char
  further : List Char

/-- No gap. -/
def Gap.none : Gap := ⟨[], false, [], []⟩

/-- The gap after a line break that was written as an escape. -/
def Gap.escaped : Gap := ⟨[], true, [], []⟩

/-- What a gap becomes inside the scalar, in reverse. -/
def Gap.folded (g : Gap) : List Char :=
  if g.hasBreak then
    if g.first = ['\n'] then (if g.further.isEmpty then [' '] else g.further)
    else g.further ++ g.first
  else g.blanks

/-- The gap up to the next word.  Below the given indentation a tab may not stand at the start of
a line. -/
def readGap (indent : Int) : Nat → Gap → Cursor → Option (Gap × Cursor)
  | 0, g, c => some (g, c)
  | fuel + 1, g, c =>
    match c.head? with
    | none => some (g, c)
    | some x =>
      if isBlank x then
        if g.hasBreak then
          if (c.column : Int) < indent && x == '\t' then none
          else readGap indent fuel g c.skip
        else readGap indent fuel { g with blanks := x :: g.blanks } c.skip
      else if isBreak x then
        let (b, c) := c.readBreak
        if g.hasBreak then readGap indent fuel { g with further := b ++ g.further } c
        else readGap indent fuel ⟨[], true, b, []⟩ c
      else some (g, c)

/-! ### Plain scalars -/

/-- The characters that end a plain scalar inside brackets. -/
def isFlowIndicator (c : Char) : Bool :=
  c == ',' || c == '[' || c == ']' || c == '\x7b' || c == '\x7d'

/-- A word of a plain scalar, in reverse. -/
def readPlainWord (flow : Bool) : Nat → List Char → Cursor → Option (List Char × Cursor)
  | 0, acc, c => some (acc, c)
  | fuel + 1, acc, c =>
    match c.head? with
    | none => some (acc, c)
    | some x =>
      if isBlank x || isBreak x then some (acc, c)
      else if flow && x == ':' && (c.ahead? 1).any (fun y => isFlowIndicator y || y == '?') then
        none
      else if (x == ':' && c.gapAhead 1) || (flow && isFlowIndicator x) then some (acc, c)
      else readPlainWord flow fuel (x :: acc) c.skip

/-- The words of a plain scalar after those already read, in reverse, with whether it ends after a
line break. -/
def readPlainWords (flow : Bool) (indent : Int) :
    Nat → List Char → Gap → Cursor → Option (List Char × Bool × Cursor)
  | 0, acc, g, c => some (acc, g.hasBreak, c)
  | fuel + 1, acc, g, c =>
    if c.atDocumentMark || c.sees '#' then some (acc, g.hasBreak, c)
    else do
      let (word, c) ← readPlainWord flow (c.rest.length + 1) [] c
      if word.isEmpty then return (acc, g.hasBreak, c)
      else
        let acc := word ++ (g.folded ++ acc)
        if c.atBlank || c.atBreak then
          let (g, c) ← readGap indent (c.rest.length + 1) .none c
          if !flow && (c.column : Int) < indent then return (acc, g.hasBreak, c)
          else readPlainWords flow indent fuel acc g c
        else return (acc, false, c)

/-- A plain scalar, whether it ends after a line break, and the position after it. -/
def readPlain (flow : Bool) (indent : Int) (c : Cursor) : Option (String × Bool × Cursor) := do
  let (acc, afterBreak, c) ← readPlainWords flow indent (c.rest.length + 1) [] .none c
  return (String.ofList acc.reverse, afterBreak, c)

/-! ### Quoted scalars -/

/-- The value of a digit in base sixteen. -/
def hexDigit? (c : Char) : Option Nat :=
  if '0' ≤ c ∧ c ≤ '9' then some (c.toNat - '0'.toNat)
  else if 'a' ≤ c ∧ c ≤ 'f' then some (c.toNat - 'a'.toNat + 10)
  else if 'A' ≤ c ∧ c ≤ 'F' then some (c.toNat - 'A'.toNat + 10)
  else none

/-- A number of so many digits in base sixteen. -/
def readHex : Nat → Nat → Cursor → Option (Nat × Cursor)
  | 0, n, c => some (n, c)
  | k + 1, n, c => do
    let d ← c.head?.bind hexDigit?
    readHex k (n * 16 + d) c.skip

/-- The character with a number, unless there is none. -/
def charOf? (n : Nat) : Option Char := if h : n.isValidChar then some (Char.ofNatAux n h) else none

/-- A character given by so many digits. -/
def readEscapedNumber (digits : Nat) (c : Cursor) : Option (Char × Cursor) := do
  let (n, c) ← readHex digits 0 c
  return (← charOf? n, c)

/-- The character for the letter of an escape. -/
def escaped? : Char → Option Char
  | '0' => some '\x00'
  | 'a' => some '\x07'
  | 'b' => some '\x08'
  | 't' => some '\t'
  | '\t' => some '\t'
  | 'n' => some '\n'
  | 'v' => some '\x0b'
  | 'f' => some '\x0c'
  | 'r' => some '\r'
  | 'e' => some '\x1b'
  | ' ' => some ' '
  | '\x22' => some '\x22'
  | '/' => some '/'
  | '\\' => some '\\'
  | 'N' => some '\u0085'
  | '_' => some '\u00a0'
  | 'L' => some '\u2028'
  | 'P' => some '\u2029'
  | _ => none

/-- What follows the backslash of an escape. -/
def readEscape (c : Cursor) : Option (Char × Cursor) := do
  let x ← c.head?
  let c := c.skip
  if x == 'x' then readEscapedNumber 2 c
  else if x == 'u' then readEscapedNumber 4 c
  else if x == 'U' then readEscapedNumber 8 c
  else return (← escaped? x, c)

/-- A word of a scalar between quotes, in reverse, with whether it ends in an escaped line
break. -/
def readQuotedWord (single : Bool) :
    Nat → List Char → Cursor → Option (List Char × Bool × Cursor)
  | 0, _, _ => none
  | fuel + 1, acc, c =>
    match c.head? with
    | none => some (acc, false, c)
    | some x =>
      if isBlank x || isBreak x then some (acc, false, c)
      else if single then
        if x == '\x27' then
          if c.ahead? 1 == some '\x27' then
            readQuotedWord single fuel ('\x27' :: acc) (c.skipMany 2)
          else some (acc, false, c)
        else readQuotedWord single fuel (x :: acc) c.skip
      else if x == '\x22' then some (acc, false, c)
      else if x == '\\' then
        if (c.ahead? 1).any isBreak then some (acc, true, c.skip.skipBreak)
        else do
          let (y, c) ← readEscape c.skip
          readQuotedWord single fuel (y :: acc) c
      else readQuotedWord single fuel (x :: acc) c.skip

/-- The words of a scalar between quotes after those already read, in reverse. -/
def readQuotedWords (single : Bool) : Nat → List Char → Cursor → Option (List Char × Cursor)
  | 0, _, _ => none
  | fuel + 1, acc, c =>
    if c.atDocumentMark || c.atEnd then none
    else do
      let (acc, broken, c) ← readQuotedWord single (c.rest.length + 1) acc c
      if c.sees (if single then '\x27' else '\x22') then return (acc, c.skip)
      else
        let (g, c) ← readGap (-1) (c.rest.length + 1) (if broken then .escaped else .none) c
        readQuotedWords single fuel (g.folded ++ acc) c

/-- A scalar whose opening quote comes next. -/
def readQuoted (single : Bool) (c : Cursor) : Option (String × Cursor) := do
  let (acc, c) ← readQuotedWords single (c.rest.length + 2) [] c.skip
  return (String.ofList acc.reverse, c)

/-! ### Block scalars -/

/-- What becomes of the line breaks at the end of a block. -/
inductive Chomp
  | strip
  | clip
  | keep
deriving DecidableEq

/-- The position after the rest of a line that may hold only a comment. -/
def skipLineComment (c : Cursor) : Option Cursor :=
  let c := c.skipWhile isBlank
  let c := if c.sees '#' then c.skipToLineEnd else c
  if c.atLineEnd then some c.skipBreak else none

/-- A chomping mark. -/
def chomp? : Option Char → Option Chomp
  | some '+' => some .keep
  | some '-' => some .strip
  | _ => none

/-- An indentation mark; none may be zero. -/
def readIncrement (c : Cursor) : Option (Option Nat × Cursor) :=
  match c.head? with
  | some x =>
    if x.isDigit then
      if x == '0' then none else some (some (x.toNat - '0'.toNat), c.skip)
    else some (none, c)
  | none => some (none, c)

/-- The marks after the sign of a block, in either order. -/
def readBlockHeader (c : Cursor) : Option (Chomp × Option Nat × Cursor) :=
  match chomp? c.head? with
  | some chomp => do
    let (increment, c) ← readIncrement c.skip
    return (chomp, increment, c)
  | none => do
    let (increment, c) ← readIncrement c
    match increment, chomp? c.head? with
    | some _, some chomp => return (chomp, increment, c.skip)
    | _, _ => return (.clip, increment, c)

/-- Empty lines, in reverse, before a line of the block; the indentation, when it is not known
yet, is that of the deepest of them.  The result is the text of the breaks, the deepest column and
the position. -/
def readEmptyLines (indent : Nat) : Nat → List Char → Nat → Cursor →
    Option (List Char × Nat × Cursor)
  | 0, acc, deepest, c => some (acc, deepest, c)
  | fuel + 1, acc, deepest, c =>
    let spaces := (c.rest.takeWhile (· == ' ')).length
    let c := c.skipMany (if indent = 0 then spaces else min spaces (indent - c.column))
    let deepest := max deepest c.column
    if (indent = 0 || c.column < indent) && c.sees '\t' then none
    else if c.atBreak then
      let (b, c) := c.readBreak
      readEmptyLines indent fuel (b ++ acc) deepest c
    else some (acc, deepest, c)

/-- The lines of a block after those already read, in reverse.  The state is the text, the last
line break, the empty lines after it, and whether the last line starts with a blank. -/
def readBlockLines (folded : Bool) (indent : Nat) :
    Nat → List Char → List Char → List Char → Bool → Cursor →
      Option (List Char × List Char × List Char × Cursor)
  | 0, acc, last, empty, _, c => some (acc, last, empty, c)
  | fuel + 1, acc, last, empty, lastBlank, c =>
    if c.column ≠ indent || c.atEnd then some (acc, last, empty, c)
    else do
      let blank := c.atBlank
      let joined :=
        if folded && last == ['\n'] && !lastBlank && !blank then
          if empty.isEmpty then ' ' :: acc else empty ++ acc
        else empty ++ (last ++ acc)
      let (line, c) := c.takeWhile (fun x => !isBreak x)
      let acc := line.reverse ++ joined
      let (last, c) := c.readBreak
      let (empty, _, c) ← readEmptyLines indent (c.rest.length + 1) [] 0 c
      readBlockLines folded indent fuel acc last empty blank c

/-- A block whose sign comes next, inside a block of the given indentation. -/
def readBlock (folded : Bool) (parent : Int) (c : Cursor) : Option (String × Cursor) := do
  let (chomp, increment, c) ← readBlockHeader c.skip
  let c ← skipLineComment c
  let given : Nat := match increment with
    | some n => if 0 ≤ parent then parent.toNat + n else n
    | none => 0
  let (empty, deepest, c) ← readEmptyLines given (c.rest.length + 1) [] 0 c
  let indent := if given = 0 then max deepest (max (parent + 1).toNat 1) else given
  let (acc, last, empty, c) ←
    readBlockLines folded indent (c.rest.length + 1) [] [] empty false c
  let tail := match chomp with
    | .strip => acc
    | .clip => last ++ acc
    | .keep => empty ++ (last ++ acc)
  return (String.ofList tail.reverse, c)

end Cutover.Yaml
