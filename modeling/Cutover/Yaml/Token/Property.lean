/-
**Anchors, tags and directives in YAML text.**

An anchor names a node, an alias repeats it, a tag gives it a type, and a directive at the start
of a document abbreviates tags.

Main definitions:

* `Cutover.Yaml.readAnchor`, `Cutover.Yaml.readTag`, `Cutover.Yaml.readDirective` — the token and
  the position after it, or nothing where the text is malformed.
-/
import Cutover.Yaml.Token.Scalar

set_option autoImplicit false

namespace Cutover.Yaml

/-- A name after the mark of an anchor or an alias. -/
def readAnchor (c : Cursor) : Option (String × Cursor) :=
  let (name, c) := c.skip.takeWhile isWordChar
  let ends := c.atGap || c.head?.any (fun x => "?:,]\x7d%@`".toList.contains x)
  if name.isEmpty || !ends then none else some (String.ofList name, c)

/-! ### Tags -/

/-- The characters of a tag; a full address may also hold commas and brackets. -/
def isTagChar (full : Bool) (c : Char) : Bool :=
  isWordChar c || ";/?:@&=+$.%!~*\x27()".toList.contains c ||
    (full && (c == ',' || c == '[' || c == ']'))

/-- The number of bytes of the character that starts with this byte. -/
def widthOf? (n : Nat) : Option Nat :=
  if n < 0x80 then some 1
  else if 0xC0 ≤ n && n < 0xE0 then some 2
  else if 0xE0 ≤ n && n < 0xF0 then some 3
  else if 0xF0 ≤ n && n < 0xF8 then some 4
  else none

/-- A byte given by a percent sign and two digits. -/
def readByte (c : Cursor) : Option (Nat × Cursor) :=
  if c.sees '%' then readHex 2 0 c.skip else none

/-- So many continuation bytes, each given by a percent sign and two digits. -/
def readBytes : Nat → Cursor → Option (List Nat × Cursor)
  | 0, c => some ([], c)
  | k + 1, c => do
    let (n, c) ← readByte c
    if 0x80 ≤ n && n < 0xC0 then
      let (ns, c) ← readBytes k c
      return (n :: ns, c)
    else none

/-- A character given by its bytes. -/
def readEncoded (c : Cursor) : Option (List Char × Cursor) := do
  let (n, c) ← readByte c
  let width ← widthOf? n
  let (ns, c) ← readBytes (width - 1) c
  let bytes := ByteArray.mk ((n :: ns).map (fun b => b.toUInt8)).toArray
  match String.fromUTF8? bytes with
  | some s => return (s.toList, c)
  | none => return (['\uFFFD'], c)

/-- The characters of a tag, in reverse, after those already read. -/
def readTagChars (full : Bool) : Nat → List Char → Cursor → Option (List Char × Cursor)
  | 0, acc, c => some (acc, c)
  | fuel + 1, acc, c =>
    match c.head? with
    | none => some (acc, c)
    | some x =>
      if x == '%' then do
        let (ys, c) ← readEncoded c
        readTagChars full fuel (ys.reverse ++ acc) c
      else if isTagChar full x then readTagChars full fuel (x :: acc) c.skip
      else some (acc, c)

/-- The text of a tag after the characters of `start`; together they may not be empty. -/
def readTagText (full : Bool) (start : List Char) (c : Cursor) : Option (List Char × Cursor) := do
  let (acc, c') ← readTagChars full (c.rest.length + 1) [] c
  if start.isEmpty && acc.isEmpty then none
  else return (start.drop 1 ++ acc.reverse, c')

/-- A word between exclamation marks, the second of which may be missing. -/
def readHandle (c : Cursor) : Option (List Char × Cursor) :=
  if c.sees '!' then
    let (word, c) := c.skip.takeWhile isWordChar
    if c.sees '!' then some ('!' :: word ++ ['!'], c.skip) else some ('!' :: word, c)
  else none

/-- A tag whose mark comes next: its handle and what follows the handle. -/
def readTag (flow : Bool) (c : Cursor) : Option (Token × Cursor) := do
  let (handle, suffix, c) ←
    if c.ahead? 1 == some '<' then do
      let (text, c) ← readTagText true [] (c.skipMany 2)
      if c.sees '>' then pure ([], text, c.skip) else none
    else do
      let (handle, c) ← readHandle c
      if 1 < handle.length && handle.getLast? == some '!' then
        let (text, c) ← readTagText false [] c
        pure (handle, text, c)
      else
        let (text, c) ← readTagText false handle c
        if text.isEmpty then pure ([], ['!'], c) else pure (['!'], text, c)
  if c.atGap || (flow && c.sees ',') then
    return (.tag (String.ofList handle) (String.ofList suffix), c)
  else none

/-! ### Directives -/

/-- A number of at most nine digits. -/
def readVersionNumber (c : Cursor) : Option (Nat × Cursor) :=
  let (digits, c) := c.takeWhile Char.isDigit
  if digits.isEmpty || 9 < digits.length then none
  else some (digits.foldl (fun n d => n * 10 + (d.toNat - '0'.toNat)) 0, c)

/-- The rest of a version directive. -/
def readVersion (c : Cursor) : Option (Token × Cursor) := do
  let (major, c) ← readVersionNumber (c.skipWhile isBlank)
  if c.sees '.' then
    let (minor, c) ← readVersionNumber c.skip
    return (.versionDirective major minor, c)
  else none

/-- The rest of a directive that abbreviates tags. -/
def readTagDirective (c : Cursor) : Option (Token × Cursor) := do
  let (handle, c) ← readHandle (c.skipWhile isBlank)
  if handle.getLast? == some '!' && c.atBlank then
    let (start, c) ← readTagText true [] (c.skipWhile isBlank)
    if c.atGap then
      return (.tagDirective (String.ofList handle) (String.ofList start), c)
    else none
  else none

/-- A directive whose mark comes next, with its line. -/
def readDirective (c : Cursor) : Option (Token × Cursor) := do
  let (name, c) := c.skip.takeWhile isWordChar
  if !c.atGap then none
  else
    let (token, c) ←
      if name == "YAML".toList then readVersion c
      else if name == "TAG".toList then readTagDirective c
      else none
    return (token, ← skipLineComment c)

end Cutover.Yaml
