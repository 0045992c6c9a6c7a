/-
**Numbers in JSON text.**

A number is an optional minus sign, an integer without a leading zero, and an optional fraction
and exponent.  An integer that fits in 64 bits stays exact.  Anything else is the product of the
first digits that fit in 64 bits and a power of ten, with one rounding for the digits and one for
each scaling step; a number too large for that is refused.

Main definitions:

* `Cutover.Json.Number.read` — a number and the text after it;
* `Cutover.Json.Number.scale` — a significand times a power of ten.
-/
import Cutover.Json.Value

set_option autoImplicit false

namespace Cutover.Json

open Document (Error)

/-- A reader takes a value off the front of a text. -/
abbrev Reader (α : Type) := List Char → Except Error (α × List Char)

namespace Number

/-- A refusal of a number. -/
def invalid : Error := .malformed "invalid number"

/-- A refusal of a number that is too large. -/
def outOfRange : Error := .malformed "number out of range"

/-- The value of a decimal digit. -/
def digit (c : Char) : Nat := c.toNat - '0'.toNat

/-- The largest significand. -/
def maxSignificand : Nat := Nat.pow 2 64 - 1

/-- The greatest power of ten that one step can scale by. -/
def maxStep : Nat := 308

/-- A significand scaled by a power of ten, in steps of at most `maxStep`. -/
def scaleSteps : Nat → Binary64 → Int → Except Error Binary64
  | 0, x, _ => .ok x
  | fuel + 1, x, e =>
    if e.natAbs ≤ maxStep then
      if 0 ≤ e then
        match x.mul (.ofNat (Nat.pow 10 e.natAbs)) with
        | .infinite _ => .error outOfRange
        | y => .ok y
      else .ok (x.div (.ofNat (Nat.pow 10 e.natAbs)))
    else if x = .zero false then .ok x
    else if 0 ≤ e then .error outOfRange
    else scaleSteps fuel (x.div (.ofNat (Nat.pow 10 maxStep))) (e + maxStep)

/-- A significand times a power of ten.  After a few downward steps nothing but zero is left. -/
def scale (negative : Bool) (significand : Nat) (exponent : Int) : Except Error Number := do
  let x ← scaleSteps 8 (.ofNat significand) exponent
  return .fraction (if negative then x.neg else x)

/-- The exponents that a scaled number can have. -/
def saturate (e : Int) : Int := max (-2147483648) (min e 2147483647)

/-- The part after the exponent mark. -/
def readExponent (negative : Bool) (significand : Nat) (start : Int) : Reader Number := fun cs =>
  let (down, cs) := match cs with
    | '+' :: rest => (false, rest)
    | '-' :: rest => (true, rest)
    | _ => (false, cs)
  let digits := cs.takeWhile Char.isDigit
  let rest := cs.dropWhile Char.isDigit
  if digits.isEmpty then .error invalid
  else
    let e := digits.foldl (fun n c => n * 10 + digit c) 0
    if 2147483648 ≤ e then
      if significand ≠ 0 && !down then .error outOfRange
      else .ok (.fraction (.zero negative), rest)
    else do
      let n ← scale negative significand (saturate (if down then start - e else start + e))
      return (n, rest)

/-- What follows the digits: an exponent, or the end of the number. -/
def finish (negative : Bool) (significand : Nat) (exponent : Int) : Reader Number
  | 'e' :: rest => readExponent negative significand exponent rest
  | 'E' :: rest => readExponent negative significand exponent rest
  | rest => do return (← scale negative significand exponent, rest)

/-- Digits taken into a significand for as long as they fit: the significand, the number of
digits taken, and the digits left. -/
def take (significand : Nat) (taken : Nat) : List Char → Nat × Nat × List Char
  | [] => (significand, taken, [])
  | c :: rest =>
    let next := significand * 10 + digit c
    if maxSignificand < next then (significand, taken, c :: rest)
    else take next (taken + 1) rest

/-- The part after the point. -/
def readFraction (negative : Bool) (significand : Nat) (exponent : Int) : Reader Number :=
  fun cs =>
    let digits := cs.takeWhile Char.isDigit
    if digits.isEmpty then .error invalid
    else
      let (m, taken, _) := take significand 0 digits
      finish negative m (exponent - taken) (cs.dropWhile Char.isDigit)

/-- The integer of a number whose text ends after its digits. -/
def exact (negative : Bool) (n : Nat) : Number :=
  if !negative then .integer n
  else if n = 0 || Nat.pow 2 63 < n then .fraction (.neg (.ofNat n))
  else .integer (-n)

/-- A number after its sign. -/
def readUnsigned (negative : Bool) : Reader Number := fun cs =>
  let digits := cs.takeWhile Char.isDigit
  let rest := cs.dropWhile Char.isDigit
  match digits with
  | [] => .error invalid
  | '0' :: _ :: _ => .error invalid
  | _ =>
    let (m, taken, left) := take 0 0 digits
    let skipped := digits.length - taken
    match rest with
    | '.' :: rest => readFraction negative m skipped rest
    | 'e' :: _ => finish negative m skipped rest
    | 'E' :: _ => finish negative m skipped rest
    | _ => if left.isEmpty then .ok (exact negative m, rest) else finish negative m skipped rest

/-- A number. -/
def read : Reader Number
  | '-' :: rest => readUnsigned true rest
  | cs => readUnsigned false cs

end Number

end Cutover.Json
