/-
**Records that are read and written field by field.**

A record is read when its members pass the check, and each of its fields is then found among them;
it is written as the object of the fields that are not left out.  For such a codec it is enough that
every field on its own keeps to its shape: then the record keeps to the table of its fields.

Main definitions:

* `Cutover.Json.Column` — a field of a record with its place in a type;
* `Cutover.Json.Codec.IsRecord` — a codec reads and writes a type column by column.

Main results:

* `Cutover.Json.checkMembers_eq_ok_iff`, `Cutover.Json.checkRequired_eq_ok_iff` — when members pass;
* `Cutover.Json.Codec.isRecord_pair`, `Cutover.Json.Codec.isRecord_triple` — small records;
* `Cutover.Json.Codec.IsRecord.keeps` — **a record keeps to the table of its columns**.
-/
import Cutover.Proofs.Json.Shape

set_option autoImplicit false

namespace Cutover.Json

open Document (Error)

/-! ### The check of members -/

section Check

variable {checks : List FieldCheck} {ms m : List (String × Value)} {vs : List Value}

theorem Slot.check_eq_ok_iff {α : Type} {s : Slot α} {v : Value} :
    s.check.check v = .ok () ↔ ∃ x, s.read v = .ok x := by
  constructor
  · intro h
    obtain ⟨x, hx, _⟩ := bind_eq_ok_iff.1 h
    exact ⟨x, hx⟩
  · rintro ⟨x, hx⟩
    exact bind_eq_ok_iff.2 ⟨x, hx, rfl⟩

/-- Members pass if each is a field and fits. -/
theorem checkMembers_eq_ok_iff :
    checkMembers checks ms = .ok () ↔
      ∀ e ∈ ms, ∃ field, checks.find? (·.name == e.1) = some field ∧ field.check e.2 = .ok () := by
  induction ms with
  | nil => exact iff_of_true rfl fun e he => nomatch he
  | cons e rest ih =>
      rw [List.forall_mem_cons, ← ih]
      cases hfind : checks.find? (·.name == e.1) with
      | none => simp [checkMembers, hfind]
      | some field =>
          simp only [checkMembers, hfind, bind_eq_ok_iff, Option.some.injEq, exists_eq_left']
          constructor
          · rintro ⟨_, hfirst, hrest⟩
            exact ⟨hfirst, hrest⟩
          · rintro ⟨hfirst, hrest⟩
            exact ⟨(), hfirst, hrest⟩

/-- No required field is missing if each is among the members. -/
theorem checkRequired_eq_ok_iff :
    checkRequired ms checks = .ok () ↔
      ∀ field ∈ checks, field.required = true → (ms.lookup field.name).isSome = true := by
  induction checks with
  | nil => exact iff_of_true rfl fun field hfield => nomatch hfield
  | cons field rest ih =>
      rw [List.forall_mem_cons, ← ih, checkRequired]
      by_cases hmissing : (field.required && (ms.lookup field.name).isNone) = true
      · rw [if_pos hmissing]
        rw [Bool.and_eq_true, Option.isNone_iff_eq_none] at hmissing
        simp [hmissing.1, hmissing.2]
      · rw [if_neg hmissing]
        have hthere : field.required = true → (ms.lookup field.name).isSome = true := by
          intro hrequired
          cases hfind : ms.lookup field.name with
          | none => simp [hrequired, hfind] at hmissing
          | some v => rfl
        exact (and_iff_right hthere).symm

/-- Items that take the place of fields fit these. -/
theorem fits_of_checkPositional {total index : Nat}
    (h : checkPositional total index checks vs = .ok ()) :
    ∀ p ∈ checks.zip vs, p.1.check p.2 = .ok () := by
  induction checks generalizing index vs with
  | nil =>
      intro p hp
      rw [List.zip_nil_left] at hp
      cases hp
  | cons field rest ih =>
      cases vs with
      | nil =>
          intro p hp
          rw [List.zip_nil_right] at hp
          cases hp
      | cons v vs =>
          obtain ⟨_, hfirst, hrest⟩ := bind_eq_ok_iff.1 h
          rw [List.zip_cons_cons, List.forall_mem_cons]
          exact ⟨hfirst, ih hrest⟩

/-- The members of an object are its own, if they pass. -/
theorem membersOf_object_eq_ok_iff :
    membersOf checks (.object ms) = .ok m ↔
      checkMembers checks ms = .ok () ∧ checkRequired ms checks = .ok () ∧ m = ms := by
  rw [membersOf, bind_eq_ok_iff]
  constructor
  · rintro ⟨_, hmembers, h⟩
    obtain ⟨_, hrequired, h⟩ := bind_eq_ok_iff.1 h
    cases h
    exact ⟨hmembers, hrequired, rfl⟩
  · rintro ⟨hmembers, hrequired, rfl⟩
    exact ⟨(), hmembers, bind_eq_ok_iff.2 ⟨(), hrequired, rfl⟩⟩

end Check

/-! ### Columns -/

/-- A field of a record, and where a type has it. -/
structure Column (T : Type) where
  {Carrier : Type}
  slot : Slot Carrier
  proj : T → Carrier

namespace Column

variable {T : Type}

/-- The name of the field. -/
def name (col : Column T) : String := col.slot.name

/-- What is asked of the field. -/
def check (col : Column T) : FieldCheck := col.slot.check

/-- The member that writes the field. -/
def put (col : Column T) (x : T) : Option (String × Value) := col.slot.put (col.proj x)

/-- The field has a name, and keeps to a shape. -/
structure Keeps (col : Column T) (field : String × Presence × Shape) : Prop where
  name_eq : col.name = field.1
  slot : col.slot.Keeps field.2.1 field.2.2

end Column

/-- A codec writes the columns of a type that are not left out, and reads the type whose columns are
found among the members. -/
structure Codec.IsRecord {T : Type} (c : Codec T) (columns : List (Column T)) : Prop where
  encode_eq : ∀ x, c.encode x = .ofSlots (columns.map (·.put x))
  decode_eq_ok_iff : ∀ {v x}, c.decode v = .ok x ↔
    ∃ m, membersOf (columns.map (·.check)) v = .ok m ∧
      ∀ col ∈ columns, col.slot.get m = .ok (col.proj x)

section Tuples

variable {T α β γ : Type} {c : Codec T} {a : Slot α} {b : Slot β} {d : Slot γ}
  {first : T → α} {second : T → β} {third : T → γ}

/-- A codec of two fields, of which a type is made. -/
theorem Codec.isRecord_pair {mk : α → β → T}
    (hdecode : ∀ v, c.decode v = (do
      let m ← membersOf [a.check, b.check] v
      return mk (← a.get m) (← b.get m)))
    (hencode : ∀ x, c.encode x = .ofSlots [a.put (first x), b.put (second x)])
    (hmk : ∀ x, mk (first x) (second x) = x) (hfirst : ∀ x y, first (mk x y) = x)
    (hsecond : ∀ x y, second (mk x y) = y) : c.IsRecord [⟨a, first⟩, ⟨b, second⟩] where
  encode_eq := hencode
  decode_eq_ok_iff := by
    intro v x
    simp only [hdecode, bind_eq_ok_iff, List.forall_mem_cons]
    refine exists_congr fun m => and_congr_right fun _ => ?_
    constructor
    · rintro ⟨y, hy, z, hz, h⟩
      cases h
      rw [hfirst, hsecond]
      exact ⟨hy, hz, fun _ => nofun⟩
    · rintro ⟨hy, hz, _⟩
      exact ⟨_, hy, _, hz, congrArg Except.ok (hmk x)⟩

/-- A codec of three fields, of which a type is made. -/
theorem Codec.isRecord_triple {mk : α → β → γ → T}
    (hdecode : ∀ v, c.decode v = (do
      let m ← membersOf [a.check, b.check, d.check] v
      return mk (← a.get m) (← b.get m) (← d.get m)))
    (hencode : ∀ x, c.encode x = .ofSlots [a.put (first x), b.put (second x), d.put (third x)])
    (hmk : ∀ x, mk (first x) (second x) (third x) = x)
    (hfirst : ∀ x y z, first (mk x y z) = x) (hsecond : ∀ x y z, second (mk x y z) = y)
    (hthird : ∀ x y z, third (mk x y z) = z) :
    c.IsRecord [⟨a, first⟩, ⟨b, second⟩, ⟨d, third⟩] where
  encode_eq := hencode
  decode_eq_ok_iff := by
    intro v x
    simp only [hdecode, bind_eq_ok_iff, List.forall_mem_cons]
    refine exists_congr fun m => and_congr_right fun _ => ?_
    constructor
    · rintro ⟨y, hy, z, hz, u, hu, h⟩
      cases h
      rw [hfirst, hsecond, hthird]
      exact ⟨hy, hz, hu, fun _ => nofun⟩
    · rintro ⟨hy, hz, hu, _⟩
      exact ⟨_, hy, _, hz, _, hu, congrArg Except.ok (hmk x)⟩

end Tuples

section Columns

variable {T : Type} {columns : List (Column T)} {fields : List (String × Presence × Shape)}

/-- A name is that of no field and no column, or it is that of a field and of its column. -/
theorem column_of_name (hcols : List.Forall₂ Column.Keeps columns fields) (k : String) :
    (fields.lookup k = none ∧ (columns.map (·.check)).find? (·.name == k) = none) ∨
      ∃ col ∈ columns, ∃ presence shape, fields.lookup k = some (presence, shape) ∧
        (columns.map (·.check)).find? (·.name == k) = some col.check ∧
        col.name = k ∧ col.slot.Keeps presence shape := by
  induction hcols with
  | nil => exact .inl ⟨rfl, rfl⟩
  | @cons col field columns fields hcol _ ih =>
      have hcheck : col.check.name = field.1 := hcol.name_eq
      rw [List.map_cons, List.find?_cons, Dict.lookup_cons_eq]
      by_cases hk : k = field.1
      · refine .inr ⟨col, List.mem_cons_self, field.2.1, field.2.2, if_pos hk, ?_, ?_, hcol.slot⟩
        · simp [hcheck, hk]
        · rw [hcol.name_eq, hk]
      · have hne : (col.check.name == k) = false := by
          rw [hcheck]
          exact beq_false_of_ne (Ne.symm hk)
        rw [if_neg hk, hne]
        rcases ih with hnone | ⟨col', hmem, hrest⟩
        · exact .inl hnone
        · exact .inr ⟨col', List.mem_cons_of_mem col hmem, hrest⟩

/-- The columns have the names of the fields. -/
theorem map_name_eq (hcols : List.Forall₂ Column.Keeps columns fields) :
    columns.map (·.name) = fields.map (·.1) := by
  induction hcols with
  | nil => rfl
  | cons hcol _ ih => rw [List.map_cons, List.map_cons, hcol.name_eq, ih]

/-- The members that write a record. -/
def written (columns : List (Column T)) (x : T) : List (String × Value) :=
  columns.filterMap (·.put x)

theorem ofSlots_columns (columns : List (Column T)) (x : T) :
    Value.ofSlots (columns.map (·.put x)) = .object (Dict.ofList (written columns x)).entries := by
  rw [Value.ofSlots, Value.ofMembers, List.filterMap_map]
  rfl

/-- A member that is written is that of a column. -/
theorem mem_written {x : T} {e : String × Value} (he : e ∈ written columns x) :
    ∃ col ∈ columns, e.1 = col.name ∧ col.slot.write (col.proj x) = some e.2 := by
  obtain ⟨col, hcol, hput⟩ := List.mem_filterMap.1 he
  obtain ⟨v, hv, rfl⟩ := Option.map_eq_some_iff.1 hput
  exact ⟨col, hcol, rfl, hv⟩

theorem written_nodup (hnames : (columns.map (·.name)).Nodup) (x : T) :
    ((written columns x).map (·.1)).Nodup := by
  induction columns with
  | nil => exact List.nodup_nil
  | cons col rest ih =>
      rw [List.map_cons, List.nodup_cons] at hnames
      have hrest := ih hnames.2
      cases hput : col.put x with
      | none =>
          have hcons : written (col :: rest) x = written rest x := List.filterMap_cons_none hput
          rw [hcons]
          exact hrest
      | some e =>
          have hcons : written (col :: rest) x = e :: written rest x :=
            List.filterMap_cons_some hput
          obtain ⟨v, _, rfl⟩ := Option.map_eq_some_iff.1 hput
          rw [hcons, List.map_cons, List.nodup_cons]
          refine ⟨fun hmem => hnames.1 ?_, hrest⟩
          obtain ⟨e, he, heq⟩ := List.mem_map.1 hmem
          obtain ⟨col', hcol', hname, _⟩ := mem_written he
          have hsame : col.name = col'.name := heq.symm.trans hname
          rw [hsame]
          exact List.mem_map_of_mem hcol'

/-- What is written under the name of a column is this column. -/
theorem lookup_written (hnames : (columns.map (·.name)).Nodup) {col : Column T}
    (hcol : col ∈ columns) (x : T) :
    (written columns x).lookup col.name = col.slot.write (col.proj x) := by
  cases hwrite : col.slot.write (col.proj x) with
  | some v =>
      have hmem : (col.name, v) ∈ written columns x :=
        List.mem_filterMap.2 ⟨col, hcol, Option.map_eq_some_iff.2 ⟨v, hwrite, rfl⟩⟩
      exact Dict.lookup_of_mem (written_nodup hnames x) hmem
  | none =>
      refine Dict.lookup_eq_none fun hmem => ?_
      obtain ⟨e, he, heq⟩ := List.mem_map.1 hmem
      obtain ⟨col', hcol', hname, hother⟩ := mem_written he
      have hsame : col' = col :=
        List.inj_on_of_nodup_map hnames hcol' hcol (hname.symm.trans heq)
      rw [hsame, hwrite] at hother
      cases hother

/-- Nothing is written under a name that is not that of a column. -/
theorem lookup_written_none {k : String} (hk : ∀ col ∈ columns, col.name ≠ k) (x : T) :
    (written columns x).lookup k = none := by
  refine Dict.lookup_eq_none fun hmem => ?_
  obtain ⟨e, he, heq⟩ := List.mem_map.1 hmem
  obtain ⟨col, hcol, hname, _⟩ := mem_written he
  exact hk col hcol (hname.symm.trans heq)

/-- A column has a field of its own, which is found under its name. -/
theorem field_of_column (hcols : List.Forall₂ Column.Keeps columns fields)
    (hnames : (columns.map (·.name)).Nodup) {col : Column T} (hcol : col ∈ columns) :
    ∃ presence shape, fields.lookup col.name = some (presence, shape) ∧
      (columns.map (·.check)).find? (·.name == col.name) = some col.check ∧
      col.slot.Keeps presence shape := by
  rcases column_of_name hcols col.name with
    ⟨_, hnone⟩ | ⟨col', hcol', p, shape, hfield, hfind, hname, hkeeps⟩
  · have hmiss := List.find?_eq_none.1 hnone col.check (List.mem_map_of_mem hcol)
    exact absurd (beq_self_eq_true col.name) hmiss
  · have hsame : col' = col := List.inj_on_of_nodup_map hnames hcol' hcol hname
    subst hsame
    exact ⟨p, shape, hfield, hfind, hkeeps⟩

namespace Codec.IsRecord

variable {c : Codec T}

/-- A record that is written is read back. -/
theorem decode_encode (h : c.IsRecord columns) (hcols : List.Forall₂ Column.Keeps columns fields)
    (hnames : (columns.map (·.name)).Nodup) (x : T) : c.decode (c.encode x) = .ok x := by
  have hlookup : ∀ col ∈ columns,
      (Dict.ofList (written columns x)).entries.lookup col.name = col.slot.write (col.proj x) := by
    intro col hcol
    exact (Dict.find?_ofList (written_nodup hnames x) col.name).trans (lookup_written hnames hcol x)
  rw [h.encode_eq, ofSlots_columns, h.decode_eq_ok_iff]
  refine ⟨_, membersOf_object_eq_ok_iff.2
    ⟨checkMembers_eq_ok_iff.2 ?_, checkRequired_eq_ok_iff.2 ?_, rfl⟩, ?_⟩
  · intro e he
    have hfind : (Dict.ofList (written columns x)).find? e.1 = some e.2 := Dict.find?_of_mem he
    rw [Dict.find?_ofList (written_nodup hnames x)] at hfind
    obtain ⟨col, hcol, hname, hwrite⟩ := mem_written (Dict.mem_of_lookup hfind)
    obtain ⟨p, shape, _, hcheck, hkeeps⟩ := field_of_column hcols hnames hcol
    rw [hname]
    exact ⟨col.check, hcheck, Slot.check_eq_ok_iff.2 ⟨_, hkeeps.read_write hwrite⟩⟩
  · intro check hcheck hrequired
    obtain ⟨col, hcol, rfl⟩ := List.mem_map.1 hcheck
    obtain ⟨p, shape, _, _, hkeeps⟩ := field_of_column hcols hnames hcol
    have hfind := hlookup col hcol
    cases hwrite : col.slot.write (col.proj x) with
    | some v =>
        rw [hwrite] at hfind
        exact Option.isSome_of_mem hfind
    | none =>
        have hneeded : col.slot.needed = true := hrequired
        rw [(hkeeps.left_out hwrite).1] at hneeded
        cases hneeded
  · intro col hcol
    obtain ⟨p, shape, _, _, hkeeps⟩ := field_of_column hcols hnames hcol
    have hfind : List.lookup col.slot.name _ = _ := hlookup col hcol
    rw [Slot.get, hfind]
    cases hwrite : col.slot.write (col.proj x) with
    | some v => exact hkeeps.read_write hwrite
    | none => exact congrArg Except.ok (hkeeps.left_out hwrite).2.symm

/-- A record that is read from an object is written again without the fields that say nothing. -/
theorem encode_decode (h : c.IsRecord columns) (hcols : List.Forall₂ Column.Keeps columns fields)
    (hnames : (columns.map (·.name)).Nodup) {v : Value} {x : T} (hsorted : v.IsSorted)
    (hnamed : (Shape.table fields).isNamed v = true) (hdecode : c.decode v = .ok x) :
    c.encode x = (Shape.table fields).tidy v := by
  obtain ⟨m, hm, hget⟩ := h.decode_eq_ok_iff.1 hdecode
  cases hsorted with
  | @object ms hincreasing hms =>
      obtain ⟨hmembers, hrequired, rfl⟩ := membersOf_object_eq_ok_iff.1 hm
      rw [checkMembers_eq_ok_iff] at hmembers
      rw [checkRequired_eq_ok_iff] at hrequired
      rw [Shape.isNamed_table] at hnamed
      rw [h.encode_eq, ofSlots_columns, Shape.tidy_table]
      -- the names increase on both sides, so it is enough to compare what stands under each name
      refine congrArg Value.object (Dict.entries_eq_of_lookup_eq (Dict.ofList _).sorted
        (Dict.sorted_filterMap hincreasing _) fun k => ?_)
      rw [Dict.lookup_filterMap (Dict.nodup_of_sorted hincreasing)]
      refine (Dict.find?_ofList (written_nodup hnames x) k).trans ?_
      rcases column_of_name hcols k with
        ⟨hfield, hcheck⟩ | ⟨col, hcol, p, shape, hfield, hcheck, rfl, hkeeps⟩
      · -- no field has this name, so no member does
        have hnone : m.lookup k = none := by
          refine Dict.lookup_eq_none fun hmem => ?_
          obtain ⟨e, he, rfl⟩ := List.mem_map.1 hmem
          obtain ⟨field, hfind, _⟩ := hmembers e he
          rw [hcheck] at hfind
          cases hfind
        rw [hnone]
        refine lookup_written_none (fun col hcol hname => ?_) x
        subst hname
        obtain ⟨_, _, hsome, _⟩ := field_of_column hcols hnames hcol
        rw [hfield] at hsome
        cases hsome
      · rw [lookup_written hnames hcol]
        have hread := hget col hcol
        cases hfind : m.lookup col.name with
        | none =>
            -- a field that is not there reads as what it is when it is left out
            have hfind' : m.lookup col.slot.name = none := hfind
            rw [Slot.get, hfind'] at hread
            rw [← Except.ok.inj hread]
            refine hkeeps.write_absent ?_
            cases hneeded : col.slot.needed with
            | false => rfl
            | true =>
                have hthere := hrequired col.check (List.mem_map_of_mem hcol) hneeded
                have hmissing : m.lookup col.check.name = none := hfind
                rw [hmissing] at hthere
                cases hthere
        | some w =>
            have hfind' : m.lookup col.slot.name = some w := hfind
            rw [Slot.get, hfind'] at hread
            have hmem := Dict.mem_of_lookup hfind
            rw [hkeeps.write_read (hms _ hmem) (hnamed _ hmem p shape hfield) hread]
            simp only [Option.bind_some, Shape.tidyMember, hfield]
  | array hvs => cases hnamed
  | _ => cases hm

/-- What a record is read from has no member that is not a field, at any depth. -/
theorem knows_of_decode (h : c.IsRecord columns) (hcols : List.Forall₂ Column.Keeps columns fields)
    (hnames : (columns.map (·.name)).Nodup) {v : Value} {x : T} (hdecode : c.decode v = .ok x) :
    (Shape.table fields).knows v = true := by
  obtain ⟨m, hm, _⟩ := h.decode_eq_ok_iff.1 hdecode
  cases v with
  | object ms =>
      obtain ⟨hmembers, _, rfl⟩ := membersOf_object_eq_ok_iff.1 hm
      rw [Shape.knows_table]
      intro e he
      obtain ⟨check, hfind, hfits⟩ := checkMembers_eq_ok_iff.1 hmembers e he
      rcases column_of_name hcols e.1 with
        ⟨_, hcheck⟩ | ⟨col, _, p, shape, hfield, hcheck, _, hkeeps⟩
      · rw [hcheck] at hfind
        cases hfind
      · rw [hcheck] at hfind
        cases hfind
        obtain ⟨y, hy⟩ := Slot.check_eq_ok_iff.1 hfits
        exact ⟨p, shape, hfield, hkeeps.knows_of_read hy⟩
  | array vs =>
      obtain ⟨_, hpositional, _⟩ := bind_eq_ok_iff.1 hm
      have hfits := fits_of_checkPositional hpositional
      rw [Shape.knows_table_array, ← map_name_eq hcols]
      intro e he p shape hfield
      rw [List.zip_map_left] at he
      obtain ⟨⟨col, w⟩, hmem, rfl⟩ := List.mem_map.1 he
      obtain ⟨p', shape', hown, _, hkeeps⟩ :=
        field_of_column hcols hnames (List.of_mem_zip hmem).1
      have hsame : (p', shape') = (p, shape) := Option.some.inj (hown.symm.trans hfield)
      cases hsame
      have hcheck : (col.check, w) ∈ (columns.map (·.check)).zip vs := by
        rw [List.zip_map_left]
        exact List.mem_map.2 ⟨(col, w), hmem, rfl⟩
      obtain ⟨y, hy⟩ := Slot.check_eq_ok_iff.1 (hfits _ hcheck)
      exact hkeeps.knows_of_read hy
  | _ => cases hm

/-- **A record keeps to the table of its columns.** -/
theorem keeps (h : c.IsRecord columns) (hcols : List.Forall₂ Column.Keeps columns fields)
    (hfields : (fields.map (·.1)).Nodup) : c.Keeps (.table fields) := by
  have hnames : (columns.map (·.name)).Nodup := by
    rw [map_name_eq hcols]
    exact hfields
  constructor
  · exact h.decode_encode hcols hnames
  · exact h.encode_decode hcols hnames
  · exact h.knows_of_decode hcols hnames
  · intro x hnull
    rw [h.encode_eq, ofSlots_columns] at hnull
    cases hnull

end Codec.IsRecord

end Columns

end Cutover.Json
