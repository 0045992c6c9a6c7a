/-
**YAML values.**

The value of a node is a tree without anchors and styles.  Entries of a mapping keep the order in
which they are written, keys may be any values, and a tag outside the standard types stays with
its value.

Main definitions:

* `Cutover.Yaml.Value` — trees;
* `Cutover.Yaml.Value.describe` — the text of a value in a message;
* `Cutover.Yaml.Mapping.insert` — one more entry, in the place of an entry with the same key.
-/
import Cutover.Yaml.Scalar

set_option autoImplicit false

namespace Cutover.Yaml

open Document (Found)

/-- A number. -/
inductive Number
  | integer (value : Int)
  | fraction (value : Binary64)
deriving DecidableEq

/-- A tree of values. -/
inductive Value
  | null
  | boolean (value : Bool)
  | number (value : Number)
  | string (value : String)
  | sequence (items : List Value)
  | mapping (entries : List (Value × Value))
  | tagged (tag : String) (value : Value)
deriving Inhabited

/-! ### Equality -/

mutual

/-- Whether two values are the same. -/
def Value.same : Value → Value → Bool
  | .null, .null => true
  | .boolean a, .boolean b => a == b
  | .number a, .number b => a == b
  | .string a, .string b => a == b
  | .sequence a, .sequence b => Value.sameItems a b
  | .mapping a, .mapping b => Value.sameEntries a b
  | .tagged s a, .tagged t b => s == t && a.same b
  | _, _ => false

/-- Whether two lists of values are the same. -/
def Value.sameItems : List Value → List Value → Bool
  | [], [] => true
  | a :: as, b :: bs => a.same b && Value.sameItems as bs
  | _, _ => false

/-- Whether two lists of keys with values are the same. -/
def Value.sameEntries : List (Value × Value) → List (Value × Value) → Bool
  | [], [] => true
  | (k, v) :: as, (l, w) :: bs => k.same l && v.same w && Value.sameEntries as bs
  | _, _ => false

end

mutual

theorem Value.same_self : ∀ a : Value, a.same a = true
  | .null => rfl
  | .boolean _ => by simp [Value.same]
  | .number _ => by simp [Value.same]
  | .string _ => by simp [Value.same]
  | .sequence a => by simpa [Value.same] using Value.sameItems_self a
  | .mapping a => by simpa [Value.same] using Value.sameEntries_self a
  | .tagged _ a => by simpa [Value.same] using Value.same_self a

theorem Value.sameItems_self : ∀ l : List Value, Value.sameItems l l = true
  | [] => rfl
  | a :: as => by simp [Value.sameItems, Value.same_self a, Value.sameItems_self as]

theorem Value.sameEntries_self : ∀ l : List (Value × Value), Value.sameEntries l l = true
  | [] => rfl
  | (k, v) :: as => by
    simp [Value.sameEntries, Value.same_self k, Value.same_self v, Value.sameEntries_self as]

end

mutual

theorem Value.eq_of_same : ∀ {a b : Value}, a.same b = true → a = b
  | .null, b, h => by cases b <;> simp [Value.same] at h; rfl
  | .boolean _, b, h => by cases b <;> simp [Value.same] at h; rw [h]
  | .number _, b, h => by cases b <;> simp [Value.same] at h; rw [h]
  | .string _, b, h => by cases b <;> simp [Value.same] at h; rw [h]
  | .sequence _, b, h => by cases b <;> simp [Value.same] at h; rw [Value.eq_of_sameItems h]
  | .mapping _, b, h => by cases b <;> simp [Value.same] at h; rw [Value.eq_of_sameEntries h]
  | .tagged _ _, b, h => by
    cases b <;> simp [Value.same] at h
    rw [h.1, Value.eq_of_same h.2]

theorem Value.eq_of_sameItems : ∀ {l m : List Value}, Value.sameItems l m = true → l = m
  | [], m, h => by cases m <;> simp [Value.sameItems] at h; rfl
  | _ :: _, m, h => by
    cases m <;> simp [Value.sameItems] at h
    rw [Value.eq_of_same h.1, Value.eq_of_sameItems h.2]

theorem Value.eq_of_sameEntries :
    ∀ {l m : List (Value × Value)}, Value.sameEntries l m = true → l = m
  | [], m, h => by cases m <;> simp [Value.sameEntries] at h; rfl
  | (_, _) :: _, m, h => by
    cases m with
    | nil => simp [Value.sameEntries] at h
    | cons p m =>
      obtain ⟨l, w⟩ := p
      simp [Value.sameEntries] at h
      rw [Value.eq_of_same h.1.1, Value.eq_of_same h.1.2, Value.eq_of_sameEntries h.2]

end

instance : DecidableEq Value := fun a b =>
  if h : a.same b then isTrue (Value.eq_of_same h)
  else isFalse (fun e => h (e ▸ Value.same_self a))

/-- The entries of a mapping, in the order in which they are written. -/
abbrev Mapping := List (Value × Value)

/-- A mapping with one key set; a key that is there keeps its place. -/
def Mapping.insert : Mapping → Value → Value → Mapping
  | [], k, v => [(k, v)]
  | (k', v') :: rest, k, v =>
    if k' = k then (k', v) :: rest else (k', v') :: Mapping.insert rest k v

/-- A mapping with the entries of another put into it. -/
def Mapping.override (base changes : Mapping) : Mapping :=
  changes.foldl (fun m e => m.insert e.1 e.2) base

namespace Value

/-- The value of a scalar; an integer of more than 64 bits has none. -/
def ofScalar : Scalar → Except Document.Error Value
  | .null => .ok .null
  | .boolean b => .ok (.boolean b)
  | .integer n => .ok (.number (.integer n))
  | .wide n => .error (.invalidType (.wideInteger n))
  | .fraction x => .ok (.number (.fraction x))
  | .text s => .ok (.string s)

/-- How an error names the value. -/
def found : Value → Found
  | .null => .unit
  | .boolean b => .boolean b
  | .number (.integer n) => .integer n
  | .number (.fraction x) => .fraction x.positional
  | .string s => .string s
  | .sequence _ => .sequence
  | .mapping _ => .mapping
  | .tagged .. => .tagged

/-- The value without the tags in front of it. -/
def untagged : Value → Value
  | .tagged _ v => v.untagged
  | v => v

/-! ### The text of a value in a message -/

/-- The text of a number. -/
def showNumber : Number → String
  | .integer n => toString n
  | .fraction (.infinite negative) => if negative then "-.inf" else ".inf"
  | .fraction .nan => ".nan"
  | .fraction x => x.compact

/-- The text of a boolean. -/
def showBoolean (b : Bool) : String := if b then "true" else "false"

/-- The name of a tag after its mark. -/
def showTag (tag : String) : String :=
  "!" ++ (if tag.startsWith "!" && tag ≠ "!" then String.ofList (tag.toList.drop 1) else tag)

mutual

/-- The text of a value in a message. -/
def describe : Value → String
  | .null => "Null"
  | .boolean b => "Bool(" ++ showBoolean b ++ ")"
  | .number n => "Number(" ++ showNumber n ++ ")"
  | .string s => "String(" ++ Text.quote s ++ ")"
  | .sequence items => "Sequence [" ++ String.intercalate ", " (describeItems items) ++ "]"
  | .mapping entries =>
    "Mapping \x7b" ++ String.intercalate ", " (describeEntries entries) ++ "\x7d"
  | .tagged tag v =>
    "TaggedValue \x7b tag: " ++ showTag tag ++ ", value: " ++ v.describe ++ " \x7d"

/-- The texts of values. -/
def describeItems : List Value → List String
  | [] => []
  | v :: vs => v.describe :: describeItems vs

/-- The texts of keys with their values; simple keys stand for themselves. -/
def describeEntries : List (Value × Value) → List String
  | [] => []
  | (k, v) :: rest =>
    let key := match k with
      | .boolean b => showBoolean b
      | .number n => showNumber n
      | .string s => Text.quote s
      | k => k.describe
    (key ++ ": " ++ v.describe) :: describeEntries rest

end

end Value

end Cutover.Yaml
