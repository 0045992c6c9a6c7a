/-
**The shape of what a codec reads.**

A shape says what may stand where in a tree: where records are, which fields they have, and how each
field may be left out.  It is written down apart from a codec, and a codec keeps to a shape when it
neither loses nor invents anything of that shape: what is written is read back, what is read is
written again as it was but for fields that say nothing, and nothing is read that the shape does not
know.

Main definitions:

* `Cutover.Json.Shape` — the shape of a tree, with `Shape.table` for a record;
* `Cutover.Json.Shape.tidy` — the tree without the fields that say nothing;
* `Cutover.Json.Shape.isNamed` — every record in the tree is written as an object;
* `Cutover.Json.Shape.knows` — every member of a record in the tree is one of its fields;
* `Cutover.Json.Value.IsSorted` — the names of every object increase;
* `Cutover.Json.Codec.Keeps`, `Cutover.Json.Slot.Keeps` — a codec, or one field, keeps to a shape.

Main results:

* `Cutover.Json.Codec.Keeps.listOf` — a list keeps to a shape as its items do;
* `Cutover.Json.Slot.keeps_required`, `Cutover.Json.Slot.keeps_optional`,
  `Cutover.Json.Slot.keeps_list`, `Cutover.Json.Slot.keeps_texts` — the four ways of leaving out.
-/
import Cutover.Proofs.Dict
import Cutover.Proofs.Result
import Cutover.Json.Codec

set_option autoImplicit false

namespace Cutover.Json

open Document (Error)

/-! ### Shapes -/

/-- How a field of a record may be left out. -/
inductive Presence
  /-- It is always written. -/
  | required
  /-- It may be left out or null. -/
  | optional
  /-- A list or an object that may be left out when it is empty. -/
  | omittable
deriving DecidableEq

/-- Whether a field with this value says as much as a field that is left out. -/
def Presence.drops : Presence → Value → Bool
  | .optional, .null => true
  | .omittable, .array [] => true
  | .omittable, .object [] => true
  | _, _ => false

/-- What may stand where in a tree. -/
inductive Shape
  /-- A value in which there is no record: text, a number, a truth value, texts by name. -/
  | leaf
  /-- A list of values of one shape. -/
  | list (item : Shape)
  /-- A record with its fields in their order, and what stands in them. -/
  | record (fields : List (String × Presence)) (member : String → Shape)

namespace Shape

/-- The record with these fields. -/
def table (fields : List (String × Presence × Shape)) : Shape :=
  .record (fields.map fun f => (f.1, f.2.1)) fun name =>
    ((fields.lookup name).map (·.2)).getD .leaf

/-- The tree without the fields that say nothing.  Everything else stays, also what is not known. -/
def tidy : Shape → Value → Value
  | .list item, .array vs => .array (vs.map item.tidy)
  | .record fields member, .object ms =>
    .object (ms.filterMap fun e =>
      if (fields.lookup e.1).any (·.drops e.2) then none else some (e.1, (member e.1).tidy e.2))
  | _, v => v

/-- Whether every record in the tree is written as an object. -/
def isNamed : Shape → Value → Bool
  | .list item, .array vs => vs.all item.isNamed
  | .record _ member, .object ms => ms.all fun e => (member e.1).isNamed e.2
  | .record _ _, .array _ => false
  | _, _ => true

/-- Whether every member of a record in the tree is one of its fields. -/
def knows : Shape → Value → Bool
  | .list item, .array vs => vs.all item.knows
  | .record fields member, .object ms =>
    ms.all fun e => (fields.lookup e.1).isSome && (member e.1).knows e.2
  | .record fields member, .array vs => (fields.zip vs).all fun p => (member p.1.1).knows p.2
  | _, _ => true

/-! #### Records -/

variable {fields : List (String × Presence × Shape)}

/-- What becomes of one member of a record when it is tidied. -/
def tidyMember (fields : List (String × Presence × Shape)) (name : String) (v : Value) :
    Option Value :=
  match fields.lookup name with
  | some (presence, shape) => if presence.drops v then none else some (shape.tidy v)
  | none => some v

theorem tidy_table (ms : List (String × Value)) :
    (table fields).tidy (.object ms) =
      .object (ms.filterMap fun e => (tidyMember fields e.1 e.2).map (e.1, ·)) := by
  rw [table, tidy]
  refine congrArg Value.object (List.filterMap_congr fun e _ => ?_)
  rw [Dict.lookup_map (fun f : Presence × Shape => f.1), tidyMember]
  rcases fields.lookup e.1 with _ | ⟨presence, shape⟩
  · rfl
  · by_cases hdrops : presence.drops e.2 = true <;> simp [hdrops]

theorem isNamed_table (ms : List (String × Value)) :
    (table fields).isNamed (.object ms) = true ↔
      ∀ e ∈ ms, ∀ presence shape, fields.lookup e.1 = some (presence, shape) →
        shape.isNamed e.2 = true := by
  rw [table, isNamed, List.all_eq_true]
  refine forall₂_congr fun e _ => ?_
  rcases fields.lookup e.1 with _ | ⟨presence, shape⟩
  · simp [isNamed]
  · simp

theorem knows_table (ms : List (String × Value)) :
    (table fields).knows (.object ms) = true ↔
      ∀ e ∈ ms, ∃ presence shape, fields.lookup e.1 = some (presence, shape) ∧
        shape.knows e.2 = true := by
  rw [table, knows, List.all_eq_true]
  refine forall₂_congr fun e _ => ?_
  rw [Dict.lookup_map (fun f : Presence × Shape => f.1)]
  rcases fields.lookup e.1 with _ | ⟨presence, shape⟩
  · simp
  · simp

theorem knows_table_array (vs : List Value) :
    (table fields).knows (.array vs) = true ↔
      ∀ p ∈ (fields.map (·.1)).zip vs, ∀ presence shape,
        fields.lookup p.1 = some (presence, shape) → shape.knows p.2 = true := by
  rw [table, knows, List.all_eq_true, List.zip_map_left, List.zip_map_left, List.forall_mem_map,
    List.forall_mem_map]
  refine forall₂_congr fun p _ => ?_
  simp only [Prod.map_fst, Prod.map_snd, id_eq]
  rcases fields.lookup p.1.1 with _ | ⟨presence, shape⟩
  · simp [knows]
  · simp

end Shape

/-! ### Sorted trees -/

/-- A tree in which the names of every object increase, so that none stands twice. -/
inductive Value.IsSorted : Value → Prop
  | null : IsSorted .null
  | boolean (b : Bool) : IsSorted (.boolean b)
  | number (n : Number) : IsSorted (.number n)
  | string (s : String) : IsSorted (.string s)
  | array {vs : List Value} (hvs : ∀ v ∈ vs, IsSorted v) : IsSorted (.array vs)
  | object {ms : List (String × Value)} (hnames : ms.Pairwise (fun a b => a.1 < b.1))
      (hms : ∀ e ∈ ms, IsSorted e.2) : IsSorted (.object ms)

/-! ### Codecs that keep to a shape -/

variable {α : Type}

/-- A codec reads what it writes, writes what it reads but for fields that say nothing, and reads
only what the shape knows. -/
structure Codec.Keeps (c : Codec α) (shape : Shape) : Prop where
  decode_encode : ∀ x, c.decode (c.encode x) = .ok x
  encode_decode : ∀ {v x}, v.IsSorted → shape.isNamed v = true → c.decode v = .ok x →
    c.encode x = shape.tidy v
  knows_of_decode : ∀ {v x}, c.decode v = .ok x → shape.knows v = true
  encode_ne_null : ∀ x, c.encode x ≠ .null

/-- A field of a record reads what it writes, is left out only when that says the same, and writes
what it reads unless it says nothing. -/
structure Slot.Keeps (s : Slot α) (presence : Presence) (shape : Shape) : Prop where
  read_write : ∀ {x v}, s.write x = some v → s.read v = .ok x
  left_out : ∀ {x}, s.write x = none → s.needed = false ∧ x = s.absent
  write_absent : s.needed = false → s.write s.absent = none
  write_read : ∀ {v x}, v.IsSorted → shape.isNamed v = true → s.read v = .ok x →
    s.write x = if presence.drops v then none else some (shape.tidy v)
  knows_of_read : ∀ {v x}, s.read v = .ok x → shape.knows v = true

namespace Codec

/-! #### Values without records -/

/-- A codec that reads just what it writes, and never writes null, keeps to a leaf. -/
theorem Keeps.leaf {c : Codec α} (h : ∀ {v x}, c.decode v = .ok x ↔ v = c.encode x)
    (hnull : ∀ x, c.encode x ≠ .null) : c.Keeps .leaf where
  decode_encode _ := h.2 rfl
  encode_decode _ _ hread := (h.1 hread).symm
  knows_of_decode _ := rfl
  encode_ne_null := hnull

theorem text_eq_ok_iff {v : Value} {s : String} : text.decode v = .ok s ↔ v = .string s := by
  constructor
  · intro h
    cases v <;> cases h
    rfl
  · rintro rfl
    rfl

theorem keeps_text : text.Keeps .leaf := .leaf text_eq_ok_iff fun _ => nofun

theorem flag_eq_ok_iff {v : Value} {b : Bool} : flag.decode v = .ok b ↔ v = .boolean b := by
  constructor
  · intro h
    cases v <;> cases h
    rfl
  · rintro rfl
    rfl

theorem keeps_flag : flag.Keeps .leaf := .leaf flag_eq_ok_iff fun _ => nofun

theorem isInt32_toInt (n : Int32) : isInt32 n.toInt = true := by
  have hmin := n.le_toInt
  have hmax := n.toInt_lt
  simp only [isInt32, Bool.and_eq_true, decide_eq_true_eq]
  omega

theorem int32_eq_ok_iff {v : Value} {n : Int32} :
    int32.decode v = .ok n ↔ v = .integer n.toInt := by
  constructor
  · intro h
    simp only [int32] at h
    split at h
    · rename_i k
      split at h
      · rename_i hk
        cases h
        simp only [isInt32, Bool.and_eq_true, decide_eq_true_eq] at hk
        rw [Int32.toInt_ofInt_of_le (by omega) (by omega)]
        rfl
      · cases h
    · cases h
  · rintro rfl
    simp only [int32, Value.integer, isInt32_toInt, if_true, Int32.ofInt_toInt]

theorem keeps_int32 : int32.Keeps .leaf := .leaf int32_eq_ok_iff fun _ => nofun

/-! #### Lists -/

theorem decodeAll_map (c : Codec α) (hc : ∀ x, c.decode (c.encode x) = .ok x) (xs : List α) :
    decodeAll c.decode (xs.map c.encode) = .ok xs := by
  induction xs with
  | nil => rfl
  | cons x rest ih =>
      rw [List.map_cons, decodeAll, hc, ih]
      rfl

/-- The items that are read stand one for one for those that are given. -/
theorem forall₂_of_decodeAll {decode : Value → Except Error α} {vs : List Value} {xs : List α}
    (h : decodeAll decode vs = .ok xs) : List.Forall₂ (fun v x => decode v = .ok x) vs xs := by
  induction vs generalizing xs with
  | nil =>
      cases h
      exact .nil
  | cons v rest ih =>
      rw [decodeAll] at h
      obtain ⟨x, hx, h⟩ := bind_eq_ok_iff.1 h
      obtain ⟨more, hmore, h⟩ := bind_eq_ok_iff.1 h
      cases h
      exact .cons hx (ih hmore)

theorem listOf_eq_ok {c : Codec α} {v : Value} {xs : List α} (h : c.listOf.decode v = .ok xs) :
    ∃ vs, v = .array vs ∧ List.Forall₂ (fun v x => c.decode v = .ok x) vs xs := by
  cases v with
  | array vs => exact ⟨vs, rfl, forall₂_of_decodeAll h⟩
  | _ => cases h

/-- Items that are read are written again as they were, each on its own. -/
theorem Keeps.encode_map {c : Codec α} {item : Shape} (hc : c.Keeps item) {vs : List Value}
    {xs : List α} (hall : List.Forall₂ (fun v x => c.decode v = .ok x) vs xs)
    (hsorted : ∀ v ∈ vs, v.IsSorted) (hnamed : ∀ v ∈ vs, item.isNamed v = true) :
    xs.map c.encode = vs.map item.tidy := by
  induction hall with
  | nil => rfl
  | @cons v x vs xs hx _ ih =>
      have hfirst := hc.encode_decode (hsorted v List.mem_cons_self)
        (hnamed v List.mem_cons_self) hx
      have hrest := ih (fun w hw => hsorted w (List.mem_cons_of_mem v hw))
        fun w hw => hnamed w (List.mem_cons_of_mem v hw)
      rw [List.map_cons, List.map_cons, hfirst, hrest]

/-- A list keeps to a shape as its items do. -/
theorem Keeps.listOf {c : Codec α} {item : Shape} (hc : c.Keeps item) :
    c.listOf.Keeps (.list item) where
  decode_encode xs := decodeAll_map c hc.decode_encode xs
  encode_decode := by
    intro v xs hsorted hnamed h
    obtain ⟨vs, rfl, hall⟩ := listOf_eq_ok h
    cases hsorted with
    | array hvs =>
        rw [Shape.isNamed, List.all_eq_true] at hnamed
        exact congrArg Value.array (hc.encode_map hall hvs hnamed)
  knows_of_decode := by
    intro v xs h
    obtain ⟨vs, rfl, hall⟩ := listOf_eq_ok h
    rw [Shape.knows, List.all_eq_true]
    intro w hw
    clear h
    induction hall with
    | nil => cases hw
    | cons hx _ ih =>
        rcases List.mem_cons.1 hw with rfl | hw
        · exact hc.knows_of_decode hx
        · exact ih hw
  encode_ne_null _ h := by cases h

/-! #### Texts by name -/

theorem decodeTexts_map (l : List (String × String)) :
    decodeTexts (l.map fun e => (e.1, .string e.2)) = .ok l := by
  induction l with
  | nil => rfl
  | cons e rest ih =>
      rw [List.map_cons, decodeTexts, ih]
      rfl

theorem decodeTexts_eq_ok {ms : List (String × Value)} {l : List (String × String)}
    (h : decodeTexts ms = .ok l) : ms = l.map fun e => (e.1, .string e.2) := by
  induction ms generalizing l with
  | nil =>
      cases h
      rfl
  | cons e rest ih =>
      rw [decodeTexts] at h
      obtain ⟨s, hs, h⟩ := bind_eq_ok_iff.1 h
      obtain ⟨more, hmore, h⟩ := bind_eq_ok_iff.1 h
      cases h
      rw [List.map_cons, ← ih hmore, ← text_eq_ok_iff.1 hs]

/-- Texts by name are written by name, and read from an object of such members. -/
theorem textsByName_decode_encode (d : Dict String) :
    textsByName.decode (textsByName.encode d) = .ok d := by
  have hread : textsByName.decode (textsByName.encode d) = .ok (Dict.ofList d.entries) := by
    simp only [textsByName, Dict.map, decodeTexts_map]
    rfl
  rw [hread, Dict.ofList_entries]

theorem textsByName_eq_ok {v : Value} {d : Dict String} (hsorted : v.IsSorted)
    (h : textsByName.decode v = .ok d) : v = textsByName.encode d := by
  cases hsorted with
  | object hnames _ =>
      obtain ⟨l, hl, h⟩ := bind_eq_ok_iff.1 h
      cases h
      -- the names increase already, so the dictionary has the entries in their order
      have hms := decodeTexts_eq_ok hl
      subst hms
      rw [List.pairwise_map] at hnames
      have hkeys : l.Pairwise (fun a b => a.1 < b.1) := hnames
      have hentries : Dict.ofList l = ⟨l, hkeys⟩ := Dict.ofList_entries ⟨l, hkeys⟩
      rw [hentries]
      rfl
  | _ => cases h

end Codec

namespace Slot

/-! #### Fields -/

variable {c : Codec α} {shape : Shape} (name : String)

theorem keeps_required [Inhabited α] (hc : c.Keeps shape) :
    (required name c).Keeps .required shape where
  read_write := by
    intro x v h
    cases h
    exact hc.decode_encode x
  left_out h := by cases h
  write_absent h := by cases h
  write_read := by
    intro v x hsorted hnamed h
    exact congrArg some (hc.encode_decode hsorted hnamed h)
  knows_of_read h := hc.knows_of_decode h

theorem optional_read_of_ne_null {v : Value} (hv : v ≠ .null) :
    (optional name c).read v = (do return some (← c.decode v)) := by
  cases v with
  | null => exact absurd rfl hv
  | _ => rfl

theorem keeps_optional (hc : c.Keeps shape) : (optional name c).Keeps .optional shape where
  read_write := by
    intro x v h
    cases x with
    | none => cases h
    | some x =>
        cases h
        -- what is written is not null, which would read as nothing
        rw [optional_read_of_ne_null name (hc.encode_ne_null x), hc.decode_encode]
        rfl
  left_out := by
    intro x h
    cases x with
    | none => exact ⟨rfl, rfl⟩
    | some x => cases h
  write_absent _ := rfl
  write_read := by
    intro v x hsorted hnamed h
    by_cases hv : v = .null
    · subst hv
      cases h
      rfl
    · rw [optional_read_of_ne_null name hv] at h
      obtain ⟨y, hy, h⟩ := bind_eq_ok_iff.1 h
      cases h
      have hkept : Presence.optional.drops v = false := by
        cases v with
        | null => exact absurd rfl hv
        | _ => rfl
      rw [hkept, ← hc.encode_decode hsorted hnamed hy]
      rfl
  knows_of_read := by
    intro v x h
    by_cases hv : v = .null
    · subst hv
      cases shape <;> rfl
    · rw [optional_read_of_ne_null name hv] at h
      obtain ⟨y, hy, _⟩ := bind_eq_ok_iff.1 h
      exact hc.knows_of_decode hy

theorem keeps_list (hc : c.Keeps shape) : (list name c).Keeps .omittable (.list shape) where
  read_write := by
    intro xs v h
    cases xs with
    | nil => cases h
    | cons x rest =>
        cases h
        exact hc.listOf.decode_encode (x :: rest)
  left_out := by
    intro xs h
    cases xs with
    | nil => exact ⟨rfl, rfl⟩
    | cons x rest => cases h
  write_absent _ := rfl
  write_read := by
    intro v xs hsorted hnamed h
    have hagain := hc.listOf.encode_decode hsorted hnamed h
    obtain ⟨vs, rfl, hall⟩ := Codec.listOf_eq_ok h
    cases hall with
    | nil => rfl
    | cons _ _ => exact congrArg some hagain
  knows_of_read h := hc.listOf.knows_of_decode h

theorem keeps_texts : (texts name).Keeps .omittable .leaf where
  read_write := by
    intro d v h
    obtain ⟨entries, hentries⟩ := d
    cases entries with
    | nil => cases h
    | cons e rest =>
        cases h
        exact Codec.textsByName_decode_encode ⟨e :: rest, hentries⟩
  left_out := by
    intro d h
    obtain ⟨entries, hentries⟩ := d
    cases entries with
    | nil => exact ⟨rfl, rfl⟩
    | cons e rest => cases h
  write_absent _ := rfl
  write_read := by
    intro v d hsorted _ h
    have hv := Codec.textsByName_eq_ok hsorted h
    subst hv
    obtain ⟨entries, hentries⟩ := d
    cases entries with
    | nil => rfl
    | cons e rest => rfl
  knows_of_read _ := rfl

end Slot

end Cutover.Json
