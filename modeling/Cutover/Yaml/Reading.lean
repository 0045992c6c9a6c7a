/-
**Reading a YAML tree.**

A tree is read from its root in the order of its text, so the first fault on the way is reported.
Aliases are followed when they are met; their number is bounded by the size of the document, and
so is the depth of what is read.  A text is read as it is written, whatever it stands for, and an
empty scalar is an empty mapping where a mapping is expected.

Main definitions:

* `Cutover.Yaml.Reading` — a step that may follow aliases and may fail;
* `Cutover.Yaml.Reading.text`, `Reading.natural32`, `Reading.record`, `Reading.byName` — the types
  of values that are read straight from a tree;
* `Cutover.Yaml.Reading.value` — the value of a node;
* `Cutover.Yaml.Reading.document?` — what a whole text holds.
-/
import Cutover.Dict
import Cutover.Yaml.Node.Grammar
import Cutover.Yaml.Value

set_option autoImplicit false

namespace Cutover.Yaml

open Document (Error)

/-- A step that may follow aliases, whose number it counts, and may fail. -/
abbrev Reading := StateT Nat (Except Error)

namespace Reading

/-- A refusal of a malformed place. -/
def brokenOff : Error := .malformed "malformed text"

/-- The deepest nesting of collections. -/
def maxDepth : Nat := 128

/-- The node that an alias stands for. -/
def follow (d : Tree) (anchor : Nat) : Reading Node := do
  let followed ← get
  set (followed + 1)
  if d.size * 100 < followed + 1 then throw (.malformed "too many aliases")
  else
    match d.resolve? anchor with
    | some n => return n
    | none => throw brokenOff

/-- The node itself, or the one that it is an alias of. -/
def target (d : Tree) : Node → Reading Node
  | .alias anchor => follow d anchor
  | n => return n

/-- The refusal of a scalar that does not fit. -/
def refusal (tag : Option String) (style : Style) (text : String) : Error :=
  match Scalar.ofNode tag style text with
  | .ok v => .invalidType v.found
  | .error e => e

/-! ### Values -/

/-- The name in a tag that stays with its value. -/
def ownTag : Option String → Option String
  | some tag =>
    if tag == "!" then some tag
    else if tag.startsWith "!" then some (String.ofList (tag.toList.drop 1))
    else none
  | none => none

/-- The entries of a mapping, of which no two have the same key. -/
def distinct (read : Node → Reading Value) : Mapping → List (Node × Node) → Reading Mapping
  | m, [] => return m
  | m, (k, v) :: rest => do
    let key ← read k
    if m.any (fun e => e.1 = key) then throw (.malformed "duplicate entry")
    else distinct read (m ++ [(key, ← read v)]) rest

/-- The value of a node that may hold `depth` further levels. -/
def valueWithin (d : Tree) : Nat → Nat → Node → Reading Value
  | 0, _, _ => throw (.malformed "nesting too deep")
  | fuel + 1, depth, n =>
    let owned (tag : Option String) (v : Value) : Value :=
      match ownTag tag with
      | some name => .tagged name v
      | none => v
    match n with
    | .broken => throw brokenOff
    | .alias anchor => do valueWithin d fuel depth (← follow d anchor)
    | .scalar tag style text => do
      let scalar ← match ownTag tag with
        | some _ => pure (Scalar.ofStyle style text)
        | none => (Scalar.ofNode tag style text : Except Error Scalar)
      return owned tag (← (Value.ofScalar scalar : Except Error Value))
    | .sequence tag items closed =>
      match depth with
      | 0 => throw (.malformed "nesting too deep")
      | depth + 1 => do
        let vs ← items.mapM (valueWithin d fuel depth)
        if closed then return owned tag (.sequence vs) else throw brokenOff
    | .mapping tag entries closed =>
      match depth with
      | 0 => throw (.malformed "nesting too deep")
      | depth + 1 => do
        let m ← distinct (valueWithin d fuel depth) [] entries
        if closed then return owned tag (.mapping m) else throw brokenOff

/-- The value of a node at a depth. -/
def value (d : Tree) (depth : Nat) (n : Node) : Reading Value :=
  valueWithin d (2 * depth + 4) depth n

/-- The value of a node, or nothing for a null. -/
def optional (d : Tree) (depth : Nat) (n : Node) : Reading (Option Value) := do
  let n ← target d n
  let given : Reading (Option Value) := do return some (← value d depth n)
  match n with
  | .scalar tag .plain text =>
    match tag with
    | none => if text.isEmpty || Scalar.isNullWord text then return none else given
    | some tag =>
      if Scalar.standardType? tag == some "null" then
        if Scalar.isNullWord text then return none
        else throw (.invalidValue (.string text))
      else given
  | _ => given

/-! ### Texts, numbers, records -/

/-- A text as it is written. -/
def text (d : Tree) (n : Node) : Reading String := do
  match ← target d n with
  | .scalar _ _ s => return s
  | .sequence .. => throw (.invalidType .sequence)
  | .mapping .. => throw (.invalidType .mapping)
  | _ => throw brokenOff

/-- A natural number of 32 bits. -/
def natural32 (d : Tree) (n : Node) : Reading Nat := do
  match ← target d n with
  | .scalar tag style s =>
    let numeric := style = .plain ||
      (style = .literal && (tag.bind Scalar.standardType?) == some "int")
    match if numeric then Scalar.unsigned? (Nat.pow 2 64) s.toList else none with
    | some k => if k < Nat.pow 2 32 then return k else throw (.invalidValue (.integer k))
    | none => throw (refusal tag style s)
  | .sequence .. => throw (.invalidType .sequence)
  | .mapping .. => throw (.invalidType .mapping)
  | _ => throw brokenOff

/-- The entries of a mapping, and whether it is closed. -/
def entries (d : Tree) (n : Node) : Reading (List (Node × Node) × Bool) := do
  match ← target d n with
  | .mapping _ es closed => return (es, closed)
  | .scalar tag style s =>
    if s.isEmpty then return ([], true) else throw (refusal tag style s)
  | .sequence .. => throw (.invalidType .sequence)
  | _ => throw brokenOff

/-- The entries of a record, each put into it by `step` if its key is a field and no other entry
has the same key; other entries are passed over. -/
def putFields {σ : Type} (d : Tree) (fields : List String)
    (step : String → Node → σ → Reading σ) :
    List String → σ → List (Node × Node) → Reading σ
  | _, s, [] => return s
  | seen, s, (k, v) :: rest => do
    let name ← text d k
    if fields.contains name then
      if seen.contains name then throw (.duplicateField name)
      else putFields d fields step (name :: seen) (← step name v s) rest
    else if v.isWhole then putFields d fields step seen s rest
    else throw brokenOff

/-- A record: the entries are put into `blank` one after the other. -/
def record {σ : Type} (d : Tree) (fields : List String)
    (step : String → Node → σ → Reading σ) (blank : σ) (n : Node) : Reading σ := do
  let (es, closed) ← entries d n
  let s ← putFields d fields step [] blank es
  if closed then return s else throw brokenOff

/-- A required field. -/
def require {α : Type} (name : String) : Option α → Reading α
  | some x => return x
  | none => throw (.missingField name)

/-- Values by name; of two entries with one name the later one counts. -/
def byName {α : Type} (d : Tree) (read : Node → Reading α) (n : Node) :
    Reading (Dict α) := do
  let (es, closed) ← entries d n
  let pairs ← es.mapM (fun e => do
    let name ← text d e.1
    return (name, ← read e.2))
  if closed then return Dict.ofList pairs else throw brokenOff

/-- What a whole text holds.  It may hold no second document. -/
def document? {α : Type} (read : Tree → Node → Reading α) (cs : List Char) :
    Except Error α := do
  let d := Tree.read cs
  let root := d.root.getD (.scalar none .plain "")
  let (x, _) ← (read d root).run 0
  if d.isOnly then return x else throw brokenOff

end Reading

end Cutover.Yaml
