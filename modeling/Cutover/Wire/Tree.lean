/-
**Reading the members of a reply.**

A reply of the cloud is a tree in which anything may be left out.  What is left out, null, or of
another shape reads as nothing.

Main definitions:

* `Cutover.Json.Value.member?` — a member of an object;
* `Cutover.Json.Value.text?`, `Value.integer?`, `Value.flag?` — what a leaf holds;
* `Cutover.Json.Value.items`, `Value.texts` — what a list holds.
-/
import Cutover.Json.Value

set_option autoImplicit false

namespace Cutover.Json.Value

/-- A member of an object that is not null. -/
def member? (v : Value) (name : String) : Option Value :=
  match v with
  | .object members =>
    match members.lookup name with
    | some .null => none
    | found => found
  | _ => none

/-- The text of a leaf. -/
def text? : Value → Option String
  | .string s => some s
  | _ => none

/-- The integer of a leaf. -/
def integer? : Value → Option Int
  | .number (.integer n) => some n
  | _ => none

/-- The truth value of a leaf. -/
def flag? : Value → Option Bool
  | .boolean b => some b
  | _ => none

/-- The items of a list. -/
def items : Value → List Value
  | .array items => items
  | _ => []

/-- The texts in a list. -/
def texts (v : Value) : List String := v.items.filterMap text?

/-- The text of a member. -/
def textAt? (v : Value) (name : String) : Option String := (v.member? name).bind text?

/-- The text of a member, empty if there is none. -/
def textAt (v : Value) (name : String) : String := (v.textAt? name).getD ""

/-- The integer of a member. -/
def integerAt? (v : Value) (name : String) : Option Int := (v.member? name).bind integer?

/-- The items of a member. -/
def itemsAt (v : Value) (name : String) : List Value := ((v.member? name).map items).getD []

/-- The texts in a member. -/
def textsAt (v : Value) (name : String) : List String := ((v.member? name).map texts).getD []

end Cutover.Json.Value
