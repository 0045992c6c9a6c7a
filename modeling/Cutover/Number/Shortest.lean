/-
**The shortest decimal text of a number.**

A finite number is written with the fewest decimal digits that round to it, and of two such
decimals the nearer one.  The decimals that round to a number form an interval around it, whose
ends count when the mantissa is even.  For one digit, two digits, and so on, the two decimals
next to the number on that grid are tested against the interval.

Main definitions:

* `Cutover.Binary64.shortest` — the digits and the decimal exponent;
* `Cutover.Binary64.positional` — every digit in its place, with at least one after the point;
* `Cutover.Binary64.compact` — the same between a ten-thousandth and ten to the sixteenth, and an
  exponent outside that range.
-/
import Cutover.Number.Binary64

set_option autoImplicit false

namespace Cutover.Binary64

/-- Whether `n * 10 ^ k` lies in the interval of reals that round to `mantissa * 2 ^ exponent`. -/
def roundsTo (mantissa : Nat) (exponent : Int) (n : Nat) (k : Int) : Bool :=
  -- The interval is taken in quarter steps, since it is narrower below a power of two.
  let low := if mantissa = Nat.pow 2 52 && minExponent < exponent then 4 * mantissa - 1
    else 4 * mantissa - 2
  let high := 4 * mantissa + 2
  let e := exponent - 2
  let value := if 0 ≤ k then n * Nat.pow 10 k.toNat else n
  let unit := if 0 ≤ k then 1 else Nat.pow 10 (-k).toNat
  let scale (m : Nat) : Nat := if 0 ≤ e then m * Nat.pow 2 e.toNat * unit else m * unit
  let value := if 0 ≤ e then value else value * Nat.pow 2 (-e).toNat
  if mantissa % 2 = 0 then scale low ≤ value && value ≤ scale high
  else scale low < value && value < scale high

/-- Twice the distance test: whether `2 * v ≤ (2 * n + 1) * 10 ^ k`, so that `n` is at least as
near to `v = num / den` as `n + 1` is; a tie goes to the even one. -/
def prefersLower (num den : Nat) (n : Nat) (k : Int) : Bool :=
  let a := if 0 ≤ k then (2 * n + 1) * Nat.pow 10 k.toNat * den else (2 * n + 1) * den
  let b := if 0 ≤ k then 2 * num else 2 * num * Nat.pow 10 (-k).toNat
  b < a || (b == a && n % 2 == 0)

/-- The whole number of units `10 ^ k` in `num / den`. -/
def unitsIn (num den : Nat) (k : Int) : Nat :=
  if 0 ≤ k then num / (den * Nat.pow 10 k.toNat) else num * Nat.pow 10 (-k).toNat / den

/-- The first decimal with `count` digits or more, of at most `fuel` sizes, that rounds to the
number. -/
def firstHit (mantissa : Nat) (exponent : Int) (num den : Nat) (top : Int) :
    Nat → Nat → Nat × Int
  | 0, count => (unitsIn num den (top - count), top - count)
  | fuel + 1, count =>
    let k := top - (count : Int)
    let n := unitsIn num den k
    let lower := 0 < n && roundsTo mantissa exponent n k
    let upper := roundsTo mantissa exponent (n + 1) k
    if lower && (!upper || prefersLower num den n k) then (n, k)
    else if upper then (n + 1, k)
    else firstHit mantissa exponent num den top fuel (count + 1)

/-- The number of digits before the point of `num / den`, negative when zeros follow the point. -/
def digitsBefore (num den : Nat) : Int :=
  if den ≤ num then ((Nat.toDigits 10 (num / den)).length : Int)
  else 1 - ((Nat.toDigits 10 ((den + num - 1) / num)).length : Int)

/-- A number and its exponent without the zeros at the end of the number. -/
def dropZeros : Nat → Nat → Int → Nat × Int
  | 0, n, k => (n, k)
  | fuel + 1, n, k => if n % 10 = 0 && 0 < n then dropZeros fuel (n / 10) (k + 1) else (n, k)

/-- The digits `n` and exponent `k` of the shortest decimal `n * 10 ^ k` for a positive number. -/
def shortest (mantissa : Nat) (exponent : Int) : Nat × Int :=
  let (num, den) := scaled mantissa exponent
  let (n, k) := firstHit mantissa exponent num den (digitsBefore num den + 1) 20 1
  dropZeros 400 n k

/-- A sign in front of a text. -/
def signed (negative : Bool) (s : String) : String := if negative then "-" ++ s else s

/-- Zeros in a row. -/
def zeros (n : Nat) : String := String.ofList (List.replicate n '0')

/-- The digits with a point after the first `point` of them, filled with zeros. -/
def placed (digits : List Char) (point : Int) : String :=
  if (digits.length : Int) ≤ point then
    String.ofList digits ++ zeros (point - digits.length).toNat ++ ".0"
  else if 0 < point then
    String.ofList (digits.take point.toNat) ++ "." ++ String.ofList (digits.drop point.toNat)
  else "0." ++ zeros (-point).toNat ++ String.ofList digits

/-- Every digit in its place, with at least one after the point. -/
def positional : Binary64 → String
  | .finite s m e =>
    if m = 0 then signed s "0.0"
    else
      let (n, k) := shortest m e
      let digits := Nat.toDigits 10 n
      signed s (placed digits (digits.length + k))
  | .infinite s => signed s "inf"
  | .nan => "NaN"

/-- As `positional` for numbers of up to sixteen places before the point and five after it; an
exponent otherwise. -/
def compact : Binary64 → String
  | .finite s m e =>
    if m = 0 then signed s "0.0"
    else
      let (n, k) := shortest m e
      let digits := Nat.toDigits 10 n
      let point : Int := digits.length + k
      if -5 < point && point ≤ 16 then signed s (placed digits point)
      else
        let tail := if digits.length = 1 then "" else "." ++ String.ofList digits.tail
        signed s (String.ofList (digits.take 1) ++ tail ++ "e" ++ toString (point - 1))
  | .infinite s => signed s "inf"
  | .nan => "NaN"

end Cutover.Binary64
