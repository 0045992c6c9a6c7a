/-
**Reading JSON text.**

A document is one value with blanks around it.  Members of an object may repeat, and the last one
counts; arrays and objects may nest to a fixed depth; text may hold any character but control
characters, and an escaped pair of surrogates is one character.

Main definitions:

* `Cutover.Json.readString` — the text after an opening quote;
* `Cutover.Json.Value.read?` — the tree of a text, and `Cutover.Json.Value.readBytes?` of a stored
  object.
-/
import Cutover.Json.Number

set_option autoImplicit false

namespace Cutover.Json

open Document (Error)

/-- Whether a character may stand between the parts of a document. -/
def isBlank (c : Char) : Bool := c == ' ' || c == '\t' || c == '\n' || c == '\r'

/-- The text after its blanks. -/
def skipBlanks (cs : List Char) : List Char := cs.dropWhile isBlank

/-- The document ends inside a value. -/
def unfinished : Error := .malformed "unexpected end"

/-- A character stands where a value has to begin. -/
def expectedValue : Error := .malformed "expected value"

/-! ### Text -/

/-- The value of a digit in base sixteen. -/
def hexDigit? (c : Char) : Option Nat :=
  if '0' ≤ c ∧ c ≤ '9' then some (c.toNat - '0'.toNat)
  else if 'a' ≤ c ∧ c ≤ 'f' then some (c.toNat - 'a'.toNat + 10)
  else if 'A' ≤ c ∧ c ≤ 'F' then some (c.toNat - 'A'.toNat + 10)
  else none

/-- Four digits in base sixteen. -/
def readUnit : Reader Nat
  | a :: b :: c :: d :: rest =>
    match hexDigit? a, hexDigit? b, hexDigit? c, hexDigit? d with
    | some a, some b, some c, some d => .ok (((a * 16 + b) * 16 + c) * 16 + d, rest)
    | _, _, _, _ => .error (.malformed "invalid escape")
  | _ => .error unfinished

/-- Whether a unit is the first half of a pair. -/
def isHighSurrogate (n : Nat) : Bool := 0xD800 ≤ n && n ≤ 0xDBFF

/-- Whether a unit is the second half of a pair. -/
def isLowSurrogate (n : Nat) : Bool := 0xDC00 ≤ n && n ≤ 0xDFFF

/-- The character of an escape by number, with the second half of a pair when it needs one. -/
def readEscapedUnit : Reader Char := fun cs => do
  let (n, rest) ← readUnit cs
  if isLowSurrogate n then .error (.malformed "lone surrogate")
  else if isHighSurrogate n then
    match rest with
    | '\\' :: 'u' :: rest => do
      let (m, rest) ← readUnit rest
      if isLowSurrogate m then
        return (Char.ofNat (0x10000 + (n - 0xD800) * 0x400 + (m - 0xDC00)), rest)
      else .error (.malformed "lone surrogate")
    | _ => .error (.malformed "lone surrogate")
  else return (Char.ofNat n, rest)

/-- The character after a backslash. -/
def readEscape : Reader Char
  | '\x22' :: rest => .ok ('\x22', rest)
  | '\\' :: rest => .ok ('\\', rest)
  | '/' :: rest => .ok ('/', rest)
  | 'b' :: rest => .ok ('\x08', rest)
  | 'f' :: rest => .ok ('\x0c', rest)
  | 'n' :: rest => .ok ('\n', rest)
  | 'r' :: rest => .ok ('\r', rest)
  | 't' :: rest => .ok ('\t', rest)
  | 'u' :: rest => readEscapedUnit rest
  | [] => .error unfinished
  | _ => .error (.malformed "invalid escape")

/-- The characters up to the closing quote, in reverse, after those already read. -/
def readCharacters : Nat → List Char → Reader (List Char)
  | 0, _, _ => .error unfinished
  | _ + 1, _, [] => .error unfinished
  | fuel + 1, acc, c :: rest =>
    if c = '\x22' then .ok (acc, rest)
    else if c = '\\' then do
      let (d, rest) ← readEscape rest
      readCharacters fuel (d :: acc) rest
    else if c < ' ' then .error (.malformed "control character")
    else readCharacters fuel (c :: acc) rest

/-- The text after an opening quote. -/
def readString : Reader String := fun cs => do
  let (acc, rest) ← readCharacters (cs.length + 1) [] cs
  return (String.ofList acc.reverse, rest)

/-- A word that has to stand here in full. -/
def readWord (word : String) : Reader Unit := fun cs =>
  let w := word.toList
  if w.isPrefixOf cs then .ok ((), cs.drop w.length) else .error (.malformed "expected word")

/-! ### Values -/

/-- The deepest nesting of arrays and objects. -/
def maxDepth : Nat := 127

/-- The document nests too deeply. -/
def tooDeep : Error := .malformed "recursion limit exceeded"

mutual

/-- A value that may hold `depth` further levels. -/
def readValue : Nat → Nat → Reader Value
  | 0, _, _ => .error unfinished
  | fuel + 1, depth, cs =>
    match skipBlanks cs with
    | [] => .error unfinished
    | '\x22' :: rest => do
      let (s, rest) ← readString rest
      return (.string s, rest)
    | 'n' :: rest => do
      let ((), rest) ← readWord "ull" rest
      return (.null, rest)
    | 't' :: rest => do
      let ((), rest) ← readWord "rue" rest
      return (.boolean true, rest)
    | 'f' :: rest => do
      let ((), rest) ← readWord "alse" rest
      return (.boolean false, rest)
    | '[' :: rest =>
      match depth with
      | 0 => .error tooDeep
      | depth + 1 =>
        match skipBlanks rest with
        | ']' :: rest => .ok (.array [], rest)
        | rest => do
          let (items, rest) ← readItems fuel depth rest
          return (.array items, rest)
    | '\x7b' :: rest =>
      match depth with
      | 0 => .error tooDeep
      | depth + 1 =>
        match skipBlanks rest with
        | '\x7d' :: rest => .ok (.object [], rest)
        | rest => do
          let (members, rest) ← readMembers fuel depth rest
          return (.ofMembers members, rest)
    | c :: rest =>
      if c = '-' || c.isDigit then do
        let (n, rest) ← Number.read (c :: rest)
        return (.number n, rest)
      else .error expectedValue

/-- One or more values up to the closing bracket. -/
def readItems : Nat → Nat → Reader (List Value)
  | 0, _, _ => .error unfinished
  | fuel + 1, depth, cs => do
    let (v, rest) ← readValue fuel depth cs
    match skipBlanks rest with
    | ',' :: rest => do
      let (vs, rest) ← readItems fuel depth rest
      return (v :: vs, rest)
    | ']' :: rest => return ([v], rest)
    | _ => .error (.malformed "expected comma or closing bracket")

/-- One or more members up to the closing brace. -/
def readMembers : Nat → Nat → Reader (List (String × Value))
  | 0, _, _ => .error unfinished
  | fuel + 1, depth, cs =>
    match skipBlanks cs with
    | '\x22' :: rest => do
      let (name, rest) ← readString rest
      match skipBlanks rest with
      | ':' :: rest => do
        let (v, rest) ← readValue fuel depth rest
        match skipBlanks rest with
        | ',' :: rest => do
          let (more, rest) ← readMembers fuel depth rest
          return ((name, v) :: more, rest)
        | '\x7d' :: rest => return ([(name, v)], rest)
        | _ => .error (.malformed "expected comma or closing brace")
      | _ => .error (.malformed "expected colon")
    | _ => .error (.malformed "expected member name")

end

/-- The tree of a text. -/
def Value.read? (cs : List Char) : Except Error Value := do
  let (v, rest) ← readValue (cs.length + 1) maxDepth cs
  match skipBlanks rest with
  | [] => return v
  | _ => .error (.malformed "trailing characters")

/-- The tree of a stored object, whose bytes have to be UTF-8. -/
def Value.readBytes? (body : ByteArray) : Except Error Value :=
  match String.fromUTF8? body with
  | some s => Value.read? s.toList
  | none => .error (.malformed "invalid text encoding")

end Cutover.Json
