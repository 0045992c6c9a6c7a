/-
**Records as JSON trees.**

A codec writes the values of a type as trees and reads them back.  A record is read from an
object whose members are all fields of the record: the members are checked in the order of their
names, and the first that is unknown or does not fit is reported; after them the first required
field that is missing.  A record may also be read from an array of its fields in their order.

Main definitions:

* `Cutover.Json.Codec` — a type's two directions; `Codec.text`, `Codec.int32`, `Codec.flag`,
  `Codec.listOf`, `Codec.textsByName`;
* `Cutover.Json.Slot` — one field of a record, in the four ways in which it may be left out;
* `Cutover.Json.membersOf` — the checked members of a record.
-/
import Cutover.Json.Value

set_option autoImplicit false

namespace Cutover.Json

open Document (Error)

/-- A way of writing the values of a type as trees and of reading them back. -/
structure Codec (α : Type) where
  decode : Value → Except Error α
  encode : α → Value

namespace Codec

/-- Text. -/
def text : Codec String where
  decode
    | .string s => .ok s
    | v => .error (.invalidType v.found)
  encode := .string

/-- The integers of 32 bits with a sign. -/
def isInt32 (n : Int) : Bool := -2147483648 ≤ n && n < 2147483648

/-- An integer of 32 bits with a sign. -/
def int32 : Codec Int32 where
  decode
    | .number (.integer n) =>
      if isInt32 n then .ok (Int32.ofInt n) else .error (.invalidValue (.integer n))
    | v => .error (.invalidType v.found)
  encode n := .integer n.toInt

/-- True or false. -/
def flag : Codec Bool where
  decode
    | .boolean b => .ok b
    | v => .error (.invalidType v.found)
  encode := .boolean

/-- The results for the items of a list, or the first error. -/
def decodeAll {α : Type} (decode : Value → Except Error α) : List Value → Except Error (List α)
  | [] => .ok []
  | v :: vs => do
    let x ← decode v
    let xs ← decodeAll decode vs
    return x :: xs

/-- A list. -/
def listOf {α : Type} (c : Codec α) : Codec (List α) where
  decode
    | .array items => decodeAll c.decode items
    | v => .error (.invalidType v.found)
  encode xs := .array (xs.map c.encode)

/-- The entries of an object whose values are texts, or the first error. -/
def decodeTexts : List (String × Value) → Except Error (List (String × String))
  | [] => .ok []
  | (name, v) :: rest => do
    let s ← text.decode v
    let more ← decodeTexts rest
    return (name, s) :: more

/-- Texts by name. -/
def textsByName : Codec (Dict String) where
  decode
    | .object members => do return Dict.ofList (← decodeTexts members)
    | v => .error (.invalidType v.found)
  encode d := .object (d.map Value.string).entries

end Codec

/-! ### Fields of a record -/

/-- What is asked of one field when a record is read. -/
structure FieldCheck where
  name : String
  required : Bool
  check : Value → Except Error Unit

/-- One field of a record: how it is read, what it is when it is left out, and how it is written,
if it is. -/
structure Slot (α : Type) where
  name : String
  needed : Bool
  read : Value → Except Error α
  absent : α
  write : α → Option Value

namespace Slot

variable {α : Type}

/-- A field that is always written. -/
def required [Inhabited α] (name : String) (c : Codec α) : Slot α :=
  ⟨name, true, c.decode, default, fun x => some (c.encode x)⟩

/-- A field that may be left out or null. -/
def optional (name : String) (c : Codec α) : Slot (Option α) where
  name := name
  needed := false
  read
    | .null => .ok none
    | v => do return some (← c.decode v)
  absent := none
  write x := x.map c.encode

/-- A list that is left out when it is empty. -/
def list (name : String) (c : Codec α) : Slot (List α) where
  name := name
  needed := false
  read := c.listOf.decode
  absent := []
  write xs := if xs.isEmpty then none else some (c.listOf.encode xs)

/-- Texts by name that are left out when there are none. -/
def texts (name : String) : Slot (Dict String) where
  name := name
  needed := false
  read := Codec.textsByName.decode
  absent := .empty
  write d := if d.isEmpty then none else some (Codec.textsByName.encode d)

/-- What is asked of the field. -/
def check (s : Slot α) : FieldCheck :=
  ⟨s.name, s.needed, fun v => do let _ ← s.read v⟩

/-- The field in the members of a record. -/
def get (s : Slot α) (members : List (String × Value)) : Except Error α :=
  match members.lookup s.name with
  | some v => s.read v
  | none => .ok s.absent

/-- The member that writes the field. -/
def put (s : Slot α) (x : α) : Option (String × Value) :=
  (s.write x).map (fun v => (s.name, v))

end Slot

/-- The members are fields of the record and fit; otherwise the first that does not. -/
def checkMembers (fields : List FieldCheck) : List (String × Value) → Except Error Unit
  | [] => .ok ()
  | (name, v) :: rest =>
    match fields.find? (·.name == name) with
    | none => .error (.unknownField name)
    | some field => do
      field.check v
      checkMembers fields rest

/-- Every required field is among the members; otherwise the first that is not. -/
def checkRequired (members : List (String × Value)) : List FieldCheck → Except Error Unit
  | [] => .ok ()
  | field :: fields =>
    if field.required && (members.lookup field.name).isNone then
      .error (.missingField field.name)
    else checkRequired members fields

/-- The fields in their order take the items of an array, of which `total` are given and `index`
already taken. -/
def checkPositional (total : Nat) : Nat → List FieldCheck → List Value → Except Error Unit
  | _, [], [] => .ok ()
  | _, [], _ :: _ => .error (.invalidLength total)
  | index, field :: fields, [] =>
    if field.required then .error (.invalidLength index)
    else checkPositional total (index + 1) fields []
  | index, field :: fields, v :: vs => do
    field.check v
    checkPositional total (index + 1) fields vs

/-- The members of a record with these fields, once they are checked. -/
def membersOf (fields : List FieldCheck) : Value → Except Error (List (String × Value))
  | .object members => do
    checkMembers fields members
    checkRequired members fields
    return members
  | .array items => do
    checkPositional items.length 0 fields items
    return (fields.map (·.name)).zip items
  | v => .error (.invalidType v.found)

/-- The object that writes a record. -/
def Value.ofSlots (members : List (Option (String × Value))) : Value :=
  .ofMembers (members.filterMap id)

end Cutover.Json
