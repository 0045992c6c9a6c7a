/-
**Records from YAML values.**

The records inside an environment are read from values, after defaults have been put in.  A null
is an empty record, a tag in front of a record or a text is ignored, unknown keys are passed over,
and nothing but text is text.

Main definitions:

* `Cutover.Yaml.Record.fold` — the entries of a record, put into it one after the other;
* `Cutover.Yaml.Record.text`, `Record.optional`, `Record.word` — the types of its fields.
-/
import Cutover.Yaml.Value

set_option autoImplicit false

namespace Cutover.Yaml.Record

open Document (Error)

/-- The entries of a record. -/
def entries (v : Value) : Except Error Mapping :=
  match v.untagged with
  | .mapping m => .ok m
  | .null => .ok []
  | v => .error (.invalidType v.found)

/-- A text. -/
def text (v : Value) : Except Error String :=
  match v.untagged with
  | .string s => .ok s
  | v => .error (.invalidType v.found)

/-- A value that may be null. -/
def optional {α : Type} (read : Value → Except Error α) : Value → Except Error (Option α)
  | .null => .ok none
  | v => do return some (← read v)

/-- One of a few words, which may also be written as the tag of a null. -/
def word {α : Type} (ofWord : String → Option α) (v : Value) : Except Error α :=
  let known (s : String) : Except Error α :=
    match ofWord s with
    | some x => .ok x
    | none => .error (.unknownVariant s)
  match v with
  | .string s => known s
  | .tagged tag v => do
    let x ← known tag
    match v.untagged with
    | .null => return x
    | v => .error (.invalidType v.found)
  | v => .error (.invalidType v.found)

/-- The entries put into a record by `step`; no field may be given twice. -/
def foldEntries {σ : Type} (fields : List String) (step : String → Value → σ → Except Error σ) :
    List String → σ → Mapping → Except Error σ
  | _, s, [] => .ok s
  | seen, s, (k, v) :: rest => do
    let name ← text k
    if fields.contains name then
      if seen.contains name then .error (.duplicateField name)
      else foldEntries fields step (name :: seen) (← step name v s) rest
    else foldEntries fields step seen s rest

/-- A record: its entries are put into `blank`. -/
def fold {σ : Type} (fields : List String) (step : String → Value → σ → Except Error σ)
    (blank : σ) (v : Value) : Except Error σ := do
  foldEntries fields step [] blank (← entries v)

/-- A required field. -/
def require {α : Type} (name : String) : Option α → Except Error α
  | some x => .ok x
  | none => .error (.missingField name)

end Cutover.Yaml.Record
