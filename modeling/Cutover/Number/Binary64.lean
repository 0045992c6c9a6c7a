/-
**Binary floating point numbers of 64 bits, as exact dyadic rationals.**

Documents may hold decimal fractions.  No field of the model is one, so a fraction is only ever
named in a message, but the text that names it has to be that of the nearest representable
number.  A finite number is therefore kept as a mantissa of at most 53 bits times a power of two,
and every rounding step is exact arithmetic on natural numbers.

Main definitions:

* `Cutover.Binary64` — finite numbers, the infinities and the undefined value;
* `Cutover.Binary64.ofRatio`, `Cutover.Binary64.ofDecimal` — the nearest number to a quotient and
  to a decimal fraction, with ties to the even mantissa;
* `Cutover.Binary64.mul`, `Cutover.Binary64.div` — correctly rounded products and quotients.
-/

set_option autoImplicit false

namespace Cutover

/-- A number of 64 bits.  A finite one is `mantissa * 2 ^ exponent` with its sign kept apart. -/
inductive Binary64
  | finite (negative : Bool) (mantissa : Nat) (exponent : Int)
  | infinite (negative : Bool)
  | nan
deriving DecidableEq

namespace Binary64

/-- The exponent of the smallest step between numbers. -/
def minExponent : Int := -1074

/-- The exponent of the largest step between numbers. -/
def maxExponent : Int := 971

/-- Zero, with its sign. -/
def zero (negative : Bool) : Binary64 := .finite negative 0 minExponent

/-- A natural number scaled by a power of two, as a quotient. -/
def scaled (n : Nat) (e : Int) : Nat × Nat :=
  if 0 ≤ e then (n * Nat.pow 2 e.toNat, 1) else (n, Nat.pow 2 (-e).toNat)

/-- The quotient rounded to the nearest integer, a half to the even one. -/
def roundDiv (num den : Nat) : Nat :=
  let q := num / den
  let r := num % den
  if den < 2 * r || (2 * r == den && q % 2 == 1) then q + 1 else q

/-- The number of steps of size `2 ^ e` nearest to `num / den`. -/
def stepsOf (num den : Nat) (e : Int) : Nat :=
  if 0 ≤ e then roundDiv num (den * Nat.pow 2 e.toNat)
  else roundDiv (num * Nat.pow 2 (-e).toNat) den

/-- The exponent at which the quotient has exactly 53 bits before the point, or the least one. -/
def exponentOf (num den : Nat) : Int :=
  let guess : Int := (num.log2 : Int) - (den.log2 : Int) - 52
  let floorSteps : Nat :=
    if 0 ≤ guess then num / (den * Nat.pow 2 guess.toNat)
    else num * Nat.pow 2 (-guess).toNat / den
  let e := if floorSteps < Nat.pow 2 52 then guess - 1 else guess
  max e minExponent

/-- The number nearest to a quotient; beyond the largest finite number it is infinite. -/
def ofRatio (negative : Bool) (num den : Nat) : Binary64 :=
  if num = 0 then zero negative
  else
    let e := exponentOf num den
    let m := stepsOf num den e
    let (m, e) := if m = Nat.pow 2 53 then (Nat.pow 2 52, e + 1) else (m, e)
    if maxExponent < e then .infinite negative else .finite negative m e

/-- The number nearest to an integer. -/
def ofNat (n : Nat) : Binary64 := ofRatio false n 1

/-- The number nearest to `digits * 10 ^ exponent`.  Exponents far outside the range are decided
by the position of the first digit. -/
def ofDecimal (negative : Bool) (digits : Nat) (exponent : Int) : Binary64 :=
  if digits = 0 then zero negative
  else
    let top : Int := ((Nat.toDigits 10 digits).length : Int) + exponent
    if 310 < top then .infinite negative
    else if top < -330 then zero negative
    else if 0 ≤ exponent then ofRatio negative (digits * Nat.pow 10 exponent.toNat) 1
    else ofRatio negative digits (Nat.pow 10 (-exponent).toNat)

/-- The number with its sign turned round. -/
def neg : Binary64 → Binary64
  | .finite s m e => .finite (!s) m e
  | .infinite s => .infinite (!s)
  | .nan => .nan

/-- Whether the number is neither infinite nor undefined. -/
def isFinite : Binary64 → Bool
  | .finite .. => true
  | _ => false

/-- The correctly rounded product of two finite numbers; other operands give the undefined
value. -/
def mul : Binary64 → Binary64 → Binary64
  | .finite s m e, .finite s' m' e' =>
    let (num, den) := scaled (m * m') (e + e')
    ofRatio (s != s') num den
  | _, _ => .nan

/-- The correctly rounded quotient of two finite numbers; other operands and division by zero give
the undefined value. -/
def div : Binary64 → Binary64 → Binary64
  | .finite s m e, .finite s' m' e' =>
    if m' = 0 then .nan
    else
      let (num, den) := scaled m (e - e')
      ofRatio (s != s') num (den * m')
  | _, _ => .nan

end Binary64

end Cutover
