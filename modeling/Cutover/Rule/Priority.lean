/-
**Priorities of listener rules.**

A listener tries its rules in the order of their numbers, and the default rule, which has no
number, last.

Main definitions:

* `Cutover.Rule.Priority` — a number or the default;
* `Cutover.Rule.Priority.parse?`, `Cutover.Rule.Priority.text` — the written form;
* `Cutover.Rule.Priority.isBefore` — the order in which priorities are listed.
-/
import Cutover.Failure

set_option autoImplicit false

namespace Cutover.Rule

/-- The priority of a rule. -/
inductive Priority
  | default
  | number (n : Nat)
deriving DecidableEq

namespace Priority

/-- Numbers have to be smaller than this. -/
def limit : Nat := Nat.pow 2 32

/-- The value of decimal digits, without their sign. -/
def natural? (cs : List Char) : Option Nat :=
  if !cs.isEmpty && cs.all Char.isDigit then
    some (cs.foldl (fun n c => n * 10 + (c.toNat - '0'.toNat)) 0)
  else none

/-- A number, which may have a plus sign. -/
def number? (cs : List Char) : Option Nat :=
  let digits := match cs with
    | '+' :: rest => rest
    | rest => rest
  (natural? digits).filter (· < limit)

/-- The priority with a written form. -/
def parse? (raw : String) : Except Failure Priority :=
  if raw = "default" then .ok .default
  else
    match number? raw.toList with
    | some n => .ok (.number n)
    | none => .error (.config ("Invalid listener rule priority: " ++ raw))

/-- The written form of a priority. -/
def text : Priority → String
  | .default => "default"
  | .number n => toString n

/-- The number of a priority; the default has none. -/
def toNat? : Priority → Option Nat
  | .default => none
  | .number n => some n

/-- Whether a priority is listed in front of another: the default first, then by number. -/
def isBefore : Priority → Priority → Bool
  | .default, _ => true
  | .number _, .default => false
  | .number m, .number n => m ≤ n

end Priority

end Cutover.Rule
