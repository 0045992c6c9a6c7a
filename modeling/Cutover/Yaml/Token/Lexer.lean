/-
**From YAML text to tokens.**

The lexer goes through the text once.  In a block, the column at which a token starts opens a
block or closes those that are deeper.  A node that is followed by a colon on its line turns out
to be a key only when the colon is reached; the place in front of it is remembered, and the token
for the key is put there.

A token is handed on only when nothing can be put in front of it any more, so the tokens before a
malformed place are those that are certain by then.

Main definitions:

* `Cutover.Yaml.Lexer` — the state; `Lexer.fetch` takes the next token off the text;
* `Cutover.Yaml.Lexer.tokens` — the tokens of a text up to its end or to the first malformed
  place, and whether the end is reached.
-/
import Cutover.Yaml.Token.Property

set_option autoImplicit false

namespace Cutover.Yaml

/-- A place where a key may start. -/
structure KeyPlace where
  /-- Whether a key has to start here. -/
  required : Bool
  /-- The number of the token that stands here. -/
  number : Nat
  index : Nat
  line : Nat
  column : Nat

/-- The state of the lexer. -/
structure Lexer where
  cursor : Cursor
  /-- Tokens that are read but not handed on. -/
  queue : List Token
  /-- How many tokens are handed on. -/
  handed : Nat
  ended : Bool
  /-- The column of the innermost block, or -1 outside all of them. -/
  indent : Int
  outer : List Int
  /-- Whether a key may start at the next token. -/
  keyAllowed : Bool
  /-- The place of a possible key, for the innermost bracket first and for no bracket last. -/
  places : List (Option KeyPlace)
  /-- How many brackets are open. -/
  flow : Nat

namespace Lexer

/-- The lexer in front of a text. -/
def start (cs : List Char) : Lexer where
  cursor := .start cs
  queue := [.streamStart]
  handed := 0
  ended := false
  indent := -1
  outer := []
  keyAllowed := true
  places := [none]
  flow := 0

/-- One more token at the end of the queue. -/
def push (l : Lexer) (t : Token) : Lexer := { l with queue := l.queue ++ [t] }

/-- A token put in front of the one with a number. -/
def insertAt (l : Lexer) (number : Nat) (t : Token) : Lexer :=
  { l with queue := l.queue.insertIdx (number - l.handed) t }

/-- The lexer at another position. -/
def moveTo (l : Lexer) (c : Cursor) : Lexer := { l with cursor := c }

/-! ### Places of keys -/

/-- A key does not start in an earlier line or more than 1024 characters back. -/
def forgetPlaces (c : Cursor) : List (Option KeyPlace) → Option (List (Option KeyPlace))
  | [] => some []
  | none :: rest => do return none :: (← forgetPlaces c rest)
  | some p :: rest =>
    if p.line < c.line || p.index + 1024 < c.index then
      if p.required then none else do return none :: (← forgetPlaces c rest)
    else do return some p :: (← forgetPlaces c rest)

/-- The lexer after places too far back are forgotten. -/
def forget (l : Lexer) : Option Lexer := do
  return { l with places := ← forgetPlaces l.cursor l.places }

/-- The lexer without the place of a possible key; a key that has to be there is missed. -/
def dropPlace (l : Lexer) : Option Lexer :=
  match l.places with
  | some p :: rest => if p.required then none else some { l with places := none :: rest }
  | _ => some l

/-- The lexer with this place marked as the place of a possible key. -/
def markPlace (l : Lexer) : Option Lexer :=
  if l.keyAllowed then do
    let required := l.flow = 0 && l.indent == (l.cursor.column : Int)
    let place : KeyPlace :=
      ⟨required, l.handed + l.queue.length, l.cursor.index, l.cursor.line, l.cursor.column⟩
    let l ← l.dropPlace
    return { l with places := some place :: l.places.drop 1 }
  else some l

/-! ### Blocks and brackets -/

/-- The lexer inside a block at a column, opened by a token in front of the one with a number or
at the end. -/
def openBlock (l : Lexer) (column : Nat) (number : Option Nat) (t : Token) : Lexer :=
  if l.flow = 0 && l.indent < (column : Int) then
    let l := { l with outer := l.indent :: l.outer, indent := column }
    match number with
    | some n => l.insertAt n t
    | none => l.push t
  else l

/-- The columns left when blocks deeper than a column are closed, and how many are. -/
def closeIndents (column : Int) : Int → List Int → Int × List Int × Nat
  | indent, [] => (indent, [], 0)
  | indent, next :: outer =>
    if column < indent then
      let (i, o, n) := closeIndents column next outer
      (i, o, n + 1)
    else (indent, next :: outer, 0)

/-- The lexer after blocks deeper than a column are closed. -/
def closeBlocks (l : Lexer) (column : Int) : Lexer :=
  if l.flow = 0 then
    let (indent, outer, n) := closeIndents column l.indent l.outer
    { l with indent, outer, queue := l.queue ++ List.replicate n .blockEnd }
  else l

/-- Blanks, comments and line breaks before the next token. -/
def skipGap : Nat → Lexer → Lexer
  | 0, l => l
  | fuel + 1, l =>
    let c := l.cursor
    let c := if c.index = 0 && c.sees byteOrderMark then c.skip else c
    let tabs := 0 < l.flow || !l.keyAllowed
    let c := c.skipWhile (fun x => x == ' ' || (tabs && x == '\t'))
    let c := if c.sees '#' then c.skipToLineEnd else c
    if c.atBreak then
      skipGap fuel { l with cursor := c.skipBreak, keyAllowed := l.keyAllowed || l.flow = 0 }
    else l.moveTo c

/-! ### Tokens -/

/-- The end of the text. -/
def fetchEnd (l : Lexer) : Option Lexer := do
  let l := if l.cursor.column ≠ 0 then
      l.moveTo { l.cursor with column := 0, line := l.cursor.line + 1 }
    else l
  let l ← (l.closeBlocks (-1)).dropPlace
  return { l with keyAllowed := false, ended := true }.push .streamEnd

/-- A directive. -/
def fetchDirective (l : Lexer) : Option Lexer := do
  let l ← (l.closeBlocks (-1)).dropPlace
  let (t, c) ← readDirective l.cursor
  return ({ l with keyAllowed := false, cursor := c }).push t

/-- A line that starts or ends a document. -/
def fetchDocumentMark (l : Lexer) (t : Token) : Option Lexer := do
  let l ← (l.closeBlocks (-1)).dropPlace
  return ({ l with keyAllowed := false, cursor := l.cursor.skipMany 3 }).push t

/-- An opening bracket. -/
def fetchOpening (l : Lexer) (t : Token) : Option Lexer := do
  let l ← l.markPlace
  return ({ l with
    places := none :: l.places, flow := l.flow + 1, keyAllowed := true,
    cursor := l.cursor.skip }).push t

/-- A closing bracket. -/
def fetchClosing (l : Lexer) (t : Token) : Option Lexer := do
  let l ← l.dropPlace
  let l := if l.flow = 0 then l else { l with places := l.places.drop 1, flow := l.flow - 1 }
  return ({ l with keyAllowed := false, cursor := l.cursor.skip }).push t

/-- A comma between brackets. -/
def fetchFlowEntry (l : Lexer) : Option Lexer := do
  let l ← l.dropPlace
  return ({ l with keyAllowed := true, cursor := l.cursor.skip }).push .flowEntry

/-- The mark of an item of a block. -/
def fetchBlockEntry (l : Lexer) : Option Lexer := do
  let l ←
    if l.flow = 0 then
      if l.keyAllowed then some (l.openBlock l.cursor.column none .blockSequenceStart) else none
    else some l
  let l ← l.dropPlace
  return ({ l with keyAllowed := true, cursor := l.cursor.skip }).push .blockEntry

/-- The mark of a key. -/
def fetchKey (l : Lexer) : Option Lexer := do
  let l ←
    if l.flow = 0 then
      if l.keyAllowed then some (l.openBlock l.cursor.column none .blockMappingStart) else none
    else some l
  let l ← l.dropPlace
  return ({ l with keyAllowed := l.flow = 0, cursor := l.cursor.skip }).push .key

/-- The colon between a key and its value. -/
def fetchValue (l : Lexer) : Option Lexer := do
  match l.places with
  | some p :: rest =>
    let l := (l.insertAt p.number .key).openBlock p.column (some p.number) .blockMappingStart
    return ({ l with
      places := none :: rest, keyAllowed := false, cursor := l.cursor.skip }).push .value
  | _ =>
    let l ←
      if l.flow = 0 then
        if l.keyAllowed then some (l.openBlock l.cursor.column none .blockMappingStart)
        else none
      else some l
    return ({ l with keyAllowed := l.flow = 0, cursor := l.cursor.skip }).push .value

/-- A token that may start a key. -/
def fetchNodePart (l : Lexer) (read : Cursor → Option (Token × Cursor)) : Option Lexer := do
  let l ← l.markPlace
  let (t, c) ← read l.cursor
  return ({ l with keyAllowed := false, cursor := c }).push t

/-- A plain scalar; after one that ends at a line break a key may start. -/
def fetchPlain (l : Lexer) : Option Lexer := do
  let l ← l.markPlace
  let (text, afterBreak, c) ← readPlain (0 < l.flow) (l.indent + 1) l.cursor
  return ({ l with keyAllowed := afterBreak, cursor := c }).push (.scalar .plain text)

/-- A block scalar. -/
def fetchBlock (l : Lexer) (folded : Bool) : Option Lexer := do
  let l ← l.dropPlace
  let (text, c) ← readBlock folded l.indent l.cursor
  let style : Style := if folded then .folded else .literal
  return ({ l with keyAllowed := true, cursor := c }).push (.scalar style text)

/-- Whether a plain scalar may start with a character, seen with the one after it. -/
def startsPlain (flow : Bool) (c : Cursor) (x : Char) : Bool :=
  !("-?:,[]\x7b\x7d#&*!|>\x27\x22%@`".toList.contains x) ||
    (x == '-' && !(c.ahead? 1).any isBlank) ||
    (!flow && (x == '?' || x == ':') && !c.gapAhead 1)

/-- The token whose first character comes next. -/
def fetchAt (l : Lexer) (x : Char) : Option Lexer :=
  let c := l.cursor
  let flow := 0 < l.flow
  if c.column = 0 && x == '%' then l.fetchDirective
  else if c.atMark '-' then l.fetchDocumentMark .documentStart
  else if c.atMark '.' then l.fetchDocumentMark .documentEnd
  else if x == '[' then l.fetchOpening .flowSequenceStart
  else if x == '\x7b' then l.fetchOpening .flowMappingStart
  else if x == ']' then l.fetchClosing .flowSequenceEnd
  else if x == '\x7d' then l.fetchClosing .flowMappingEnd
  else if x == ',' then l.fetchFlowEntry
  else if x == '-' && c.gapAhead 1 then l.fetchBlockEntry
  else if x == '?' && (flow || c.gapAhead 1) then l.fetchKey
  else if x == ':' && (flow || c.gapAhead 1) then l.fetchValue
  else if x == '*' then
    l.fetchNodePart (fun c => do let (s, c) ← readAnchor c; return (.alias s, c))
  else if x == '&' then
    l.fetchNodePart (fun c => do let (s, c) ← readAnchor c; return (.anchor s, c))
  else if x == '!' then l.fetchNodePart (readTag flow)
  else if x == '|' && !flow then l.fetchBlock false
  else if x == '>' && !flow then l.fetchBlock true
  else if x == '\x27' then
    l.fetchNodePart (fun c => do
      let (s, c) ← readQuoted true c
      return (.scalar .singleQuoted s, c))
  else if x == '\x22' then
    l.fetchNodePart (fun c => do
      let (s, c) ← readQuoted false c
      return (.scalar .doubleQuoted s, c))
  else if startsPlain flow c x then l.fetchPlain
  else none

/-- The lexer after one more token is read. -/
def fetch (l : Lexer) : Option Lexer := do
  let l ← (skipGap (l.cursor.rest.length + 1) l).forget
  let l := l.closeBlocks l.cursor.column
  match l.cursor.head? with
  | none => l.fetchEnd
  | some x => l.fetchAt x

/-- Whether a key may still be put in front of the first token of the queue. -/
def isUnsettled (l : Lexer) : Bool :=
  l.places.any (fun p => p.any (fun p => p.number == l.handed))

/-- The lexer with a first token that is certain. -/
def settle : Nat → Lexer → Option Lexer
  | 0, _ => none
  | fuel + 1, l =>
    if l.queue.isEmpty then do settle fuel (← l.fetch)
    else do
      let l ← l.forget
      if l.isUnsettled then settle fuel (← l.fetch) else return l

/-- The tokens that are handed on, with whether the last of them is the end of the text. -/
def handOn : Nat → Lexer → List Token × Bool
  | 0, _ => ([], false)
  | fuel + 1, l =>
    match l.settle (l.cursor.rest.length + 4) with
    | none => ([], false)
    | some l =>
      match l.queue with
      | [] => ([], false)
      | .streamEnd :: _ => ([.streamEnd], true)
      | t :: queue =>
        let (ts, ok) := handOn fuel { l with queue, handed := l.handed + 1 }
        (t :: ts, ok)

/-- The tokens of a text, up to its end or to the first malformed place, with whether the end is
reached.  A text with a control character is malformed from its start. -/
def tokens (cs : List Char) : List Token × Bool :=
  if cs.all isAllowed then handOn (4 * cs.length + 8) (start cs) else ([], false)

end Lexer

end Cutover.Yaml
