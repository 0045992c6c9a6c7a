/-
**JSON values.**

A JSON document is kept as a tree.  The members of an object are sorted by name and a name stands
once, so that a tree does not depend on the order in which its text was written.

Main definitions:

* `Cutover.Json.Number`, `Cutover.Json.Value` — numbers and trees;
* `Cutover.Json.Value.ofMembers` — the object of a list of members, of which a later one counts;
* `Cutover.Json.Value.found` — how an error names a value.
-/
import Cutover.Dict
import Cutover.Document.Error

set_option autoImplicit false

namespace Cutover.Json

/-- A number: an integer of at most 64 bits, or a fraction. -/
inductive Number
  | integer (value : Int)
  | fraction (value : Binary64)
deriving DecidableEq

/-- A JSON tree. -/
inductive Value
  | null
  | boolean (value : Bool)
  | number (value : Number)
  | string (value : String)
  | array (items : List Value)
  | object (members : List (String × Value))
deriving Inhabited

namespace Value

/-- The object of a list of members; of two members with one name the later one counts. -/
def ofMembers (members : List (String × Value)) : Value :=
  .object (Dict.ofList members).entries

/-- An integer. -/
def integer (n : Int) : Value := .number (.integer n)

/-- How an error names the value. -/
def found : Value → Document.Found
  | .null => .null
  | .boolean b => .boolean b
  | .number (.integer n) => .integer n
  | .number (.fraction x) => .fraction x.compact
  | .string s => .string s
  | .array _ => .sequence
  | .object _ => .mapping

end Value

end Cutover.Json
