/-
**Passing over JSON text.**

A member that a record does not have is passed over.  Its text has to have the form of a value,
but nothing is asked of what the value is: numbers may be out of range, escapes may name half a
pair, and nesting has no limit.

Main definition:

* `Cutover.Json.skipValue` — the text after a value.
-/
import Cutover.Json.Reader

set_option autoImplicit false

namespace Cutover.Json

open Document (Error)

/-- The text after a quoted text whose opening quote is gone. -/
def skipString : List Char → Except Error (List Char)
  | [] => .error unfinished
  | '\x22' :: rest => .ok rest
  | '\\' :: 'u' :: a :: b :: c :: d :: rest =>
    if [a, b, c, d].all (fun x => (hexDigit? x).isSome) then skipString rest
    else .error (.malformed "invalid escape")
  | '\\' :: c :: rest =>
    if ['\x22', '\\', '/', 'b', 'f', 'n', 'r', 't'].contains c then skipString rest
    else .error (.malformed "invalid escape")
  | c :: rest => if c < ' ' then .error (.malformed "control character") else skipString rest

/-- The text after one or more digits. -/
def skipDigits (cs : List Char) : Except Error (List Char) :=
  match cs with
  | c :: _ => if c.isDigit then .ok (cs.dropWhile Char.isDigit) else .error Number.invalid
  | [] => .error Number.invalid

/-- The text after an exponent, if there is one. -/
def skipExponent : List Char → Except Error (List Char)
  | 'e' :: '+' :: rest => skipDigits rest
  | 'e' :: '-' :: rest => skipDigits rest
  | 'e' :: rest => skipDigits rest
  | 'E' :: '+' :: rest => skipDigits rest
  | 'E' :: '-' :: rest => skipDigits rest
  | 'E' :: rest => skipDigits rest
  | rest => .ok rest

/-- The text after a number whose sign is gone. -/
def skipNumber (cs : List Char) : Except Error (List Char) := do
  let rest ← skipDigits cs
  if cs.head? = some '0' ∧ 1 < cs.length - rest.length then .error Number.invalid
  else
    match rest with
    | '.' :: rest => do skipExponent (← skipDigits rest)
    | _ => skipExponent rest

/-- What encloses a value. -/
inductive Frame
  | array
  | object
deriving DecidableEq

/-- The member name and colon that come before a value of an object. -/
def skipName (cs : List Char) : Except Error (List Char) :=
  match skipBlanks cs with
  | '\x22' :: rest => do
    let rest ← skipString rest
    match skipBlanks rest with
    | ':' :: rest => return rest
    | _ => .error (.malformed "expected colon")
  | _ => .error (.malformed "expected member name")

/-- The text before the next value of a frame. -/
def skipToValue : Frame → List Char → Except Error (List Char)
  | .array, cs => .ok cs
  | .object, cs => skipName cs

/-- After a value: the enclosing frames are closed until a comma follows.  The result is the text
before the next value with the frames that are still open, or the text after the last frame. -/
def skipAfter : List Frame → List Char → Except Error (List Frame × List Char)
  | [], cs => .ok ([], cs)
  | frame :: outer, cs =>
    match skipBlanks cs, frame with
    | ',' :: rest, _ => do return (frame :: outer, ← skipToValue frame rest)
    | ']' :: rest, .array => skipAfter outer rest
    | '\x7d' :: rest, .object => skipAfter outer rest
    | _, _ => .error (.malformed "expected comma or closing bracket")

/-- Values are passed over until every frame is closed. -/
def skipFrames : Nat → List Frame → List Char → Except Error (List Char)
  | 0, _, _ => .error unfinished
  | fuel + 1, frames, cs => do
    let leaf (rest : List Char) : Except Error (List Char) := do
      let (frames, rest) ← skipAfter frames rest
      if frames.isEmpty then return rest else skipFrames fuel frames rest
    match skipBlanks cs with
    | [] => .error unfinished
    | '\x22' :: rest => leaf (← skipString rest)
    | 'n' :: rest => leaf (← readWord "ull" rest).2
    | 't' :: rest => leaf (← readWord "rue" rest).2
    | 'f' :: rest => leaf (← readWord "alse" rest).2
    | '-' :: rest => leaf (← skipNumber rest)
    | '[' :: rest =>
      match skipBlanks rest with
      | ']' :: rest => leaf rest
      | rest => skipFrames fuel (.array :: frames) rest
    | '\x7b' :: rest =>
      match skipBlanks rest with
      | '\x7d' :: rest => leaf rest
      | rest => do skipFrames fuel (.object :: frames) (← skipName rest)
    | c :: rest => if c.isDigit then leaf (← skipNumber (c :: rest)) else .error expectedValue

/-- The text after a value. -/
def skipValue (cs : List Char) : Except Error (List Char) :=
  skipFrames (cs.length + 1) [] cs

end Cutover.Json
