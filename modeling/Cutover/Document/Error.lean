/-
**Why a document could not be read.**

Configuration files, stored parameters and container templates are documents.  A document is
refused because its text is malformed, or because a value does not fit the place it stands in.
The two are told apart, and of several faults the first in reading order is reported.

Main definitions:

* `Cutover.Document.Found` — the value that stood in the wrong place;
* `Cutover.Document.Error` — the causes of a refusal, and `Cutover.Document.Error.message`.
-/
import Cutover.Number.Shortest
import Cutover.Text.Quoted

set_option autoImplicit false

namespace Cutover.Document

/-- A value as a message names it. -/
inductive Found
  /-- The null value of a document whose notation has one. -/
  | null
  /-- An empty or null scalar. -/
  | unit
  | boolean (value : Bool)
  | integer (value : Int)
  /-- An integer that needs more than 64 bits. -/
  | wideInteger (value : Int)
  /-- A fraction, by its text. -/
  | fraction (text : String)
  | string (value : String)
  | sequence
  | mapping
  /-- A value that carries a type tag. -/
  | tagged
deriving DecidableEq

/-- How a message names the value. -/
def Found.describe : Found → String
  | .null => "null"
  | .unit => "unit value"
  | .boolean b => "boolean `" ++ (if b then "true" else "false") ++ "`"
  | .integer n => "integer `" ++ toString n ++ "`"
  | .wideInteger n =>
    "integer `" ++ toString n ++ "` as " ++ (if 0 ≤ n then "u128" else "i128")
  | .fraction text => "floating point `" ++ text ++ "`"
  | .string s => "string " ++ Text.quote s
  | .sequence => "sequence"
  | .mapping => "map"
  | .tagged => "enum"

/-- The causes for which a document is refused. -/
inductive Error
  | unknownField (name : String)
  | missingField (name : String)
  | duplicateField (name : String)
  | unknownVariant (name : String)
  | invalidType (found : Found)
  | invalidValue (found : Found)
  /-- A positional record ends after this many values, before a required one. -/
  | invalidLength (count : Nat)
  /-- None of the alternatives of a value fits. -/
  | noVariant
  /-- The text is not a document at all, or breaks a rule outside the model. -/
  | malformed (detail : String)
deriving DecidableEq

/-- The text of a cause. -/
def Error.message : Error → String
  | .unknownField name => "unknown field `" ++ name ++ "`"
  | .missingField name => "missing field `" ++ name ++ "`"
  | .duplicateField name => "duplicate field `" ++ name ++ "`"
  | .unknownVariant name => "unknown variant `" ++ name ++ "`"
  | .invalidType found => "invalid type: " ++ found.describe
  | .invalidValue found => "invalid value: " ++ found.describe
  | .invalidLength count => "invalid length " ++ toString count
  | .noVariant => "data did not match any variant"
  | .malformed detail => "malformed document: " ++ detail

end Cutover.Document
