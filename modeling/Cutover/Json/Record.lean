/-
**Records read straight from JSON text.**

A stored parameter is a small record whose fields are all text.  It is read in the order in which
it is written, so the first fault in the text is the one reported: a repeated field at its second
name, a value of another type where it begins, and a missing field only at the end of the record.
Other members are passed over.  A record may also be written as an array of its fields.

Main definitions:

* `Cutover.Json.Field` — a field and what it holds when it is not written;
* `Cutover.Json.readRecord?` — the texts of the fields.
-/
import Cutover.Json.Skip

set_option autoImplicit false

namespace Cutover.Json

open Document (Error)

/-- A field of a record of texts; one without a default has to be written. -/
structure Field where
  name : String
  default? : Option String

/-- The refusal of a value that is not the one expected here. -/
def refuse (cs : List Char) : Error :=
  match cs with
  | '\x22' :: rest =>
    match readString rest with
    | .ok (s, _) => .invalidType (.string s)
    | .error e => e
  | '[' :: _ => .invalidType .sequence
  | '\x7b' :: _ => .invalidType .mapping
  | _ =>
    match readValue 1 0 cs with
    | .ok (v, _) => .invalidType v.found
    | .error e => e

/-- A text value. -/
def readText : Reader String := fun cs =>
  match skipBlanks cs with
  | [] => .error unfinished
  | '\x22' :: rest => readString rest
  | cs => .error (refuse cs)

/-- The members of a record up to its closing brace, added to those already read. -/
def readNamed : Nat → List Field → List (String × String) → Bool → Reader (List (String × String))
  | 0, _, _, _, _ => .error unfinished
  | fuel + 1, fields, got, first, cs => do
    let member (rest : List Char) : Except Error (List (String × String) × List Char) := do
      let (name, rest) ← readString rest
      if fields.any (·.name == name) then
        if (got.lookup name).isSome then .error (.duplicateField name)
        else
          match skipBlanks rest with
          | ':' :: rest => do
            let (s, rest) ← readText rest
            readNamed fuel fields (got ++ [(name, s)]) false rest
          | _ => .error (.malformed "expected colon")
      else
        match skipBlanks rest with
        | ':' :: rest => do readNamed fuel fields got false (← skipValue rest)
        | _ => .error (.malformed "expected colon")
    match skipBlanks cs with
    | '\x7d' :: rest => return (got, rest)
    | ',' :: rest =>
      if first then .error (.malformed "expected member name")
      else
        match skipBlanks rest with
        | '\x22' :: rest => member rest
        | _ => .error (.malformed "expected member name")
    | '\x22' :: rest =>
      if first then member rest else .error (.malformed "expected comma or closing brace")
    | _ => .error (.malformed "expected member name")

/-- The texts of the fields, in declaration order, from the members that were written. -/
def complete (got : List (String × String)) : List Field → Except Error (List String)
  | [] => .ok []
  | field :: fields =>
    match (got.lookup field.name).or field.default? with
    | some s => do return s :: (← complete got fields)
    | none => .error (.missingField field.name)

/-- The texts of the fields from an array, of which `index` values are already read. -/
def readPositional : Nat → List Field → Reader (List String)
  | _, [], cs =>
    match skipBlanks cs with
    | ']' :: rest => .ok ([], rest)
    | _ => .error (.malformed "trailing characters")
  | index, field :: fields, cs =>
    let value (rest : List Char) : Except Error (List String × List Char) := do
      let (s, rest) ← readText rest
      let (more, rest) ← readPositional (index + 1) fields rest
      return (s :: more, rest)
    match skipBlanks cs with
    | ']' :: rest =>
      match field.default? with
      | some s => do
        let (more, rest) ← readPositional (index + 1) fields (']' :: rest)
        return (s :: more, rest)
      | none => .error (.invalidLength index)
    | ',' :: rest =>
      if index = 0 then .error expectedValue
      else
        match skipBlanks rest with
        | ']' :: _ => .error (.malformed "trailing comma")
        | rest => value rest
    | [] => .error unfinished
    | rest => if index = 0 then value rest else .error (.malformed "expected comma or bracket")

/-- The texts of the fields of a record that is the whole document. -/
def readRecord? (fields : List Field) (text : String) : Except Error (List String) := do
  let cs := text.toList
  let (texts, rest) ← match skipBlanks cs with
    | [] => .error unfinished
    | '[' :: rest => readPositional 0 fields rest
    | '\x7b' :: rest => do
      let (got, rest) ← readNamed (cs.length + 1) fields [] true rest
      let texts ← complete got fields
      pure (texts, rest)
    | cs => .error (refuse cs)
  match skipBlanks rest with
  | [] => return texts
  | _ => .error (.malformed "trailing characters")

end Cutover.Json
