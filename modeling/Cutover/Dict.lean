/-
**Finite maps from text, kept in key order.**

Tags and rule conditions are maps from names to values.  Everything that is read off such a map
(the order in which conditions are sent, the order in which tags are listed) follows the order of
the keys, which is the byte order of their UTF-8 text.  A `Dict` therefore stores its entries
strictly sorted, so that two dictionaries with the same lookups are equal.

Main definitions:

* `Cutover.Dict` — entries with strictly increasing keys;
* `Cutover.Dict.find?`, `Cutover.Dict.insert`, `Cutover.Dict.erase` — lookup and change of one key;
* `Cutover.Dict.ofList` — the dictionary of a list of entries, in which a later entry wins.

Main results:

* `Cutover.Dict.ext_find?` — two dictionaries with the same lookups are equal;
* `Cutover.Dict.find?_insert`, `Cutover.Dict.find?_erase`, `Cutover.Dict.find?_map` — what one change
  does to every lookup.
-/

set_option autoImplicit false

namespace Cutover

/-- A finite map from texts, as a list of entries whose keys strictly increase. -/
structure Dict (α : Type) where
  entries : List (String × α)
  sorted : entries.Pairwise (fun a b => a.1 < b.1)
deriving DecidableEq

namespace Dict

variable {α β : Type}

/-- Two keys are in strict order one way or the other, or equal. -/
theorem key_trichotomy (a b : String) : a < b ∨ a = b ∨ b < a := by
  by_cases h : a < b
  · exact .inl h
  · by_cases h' : b < a
    · exact .inr (.inr h')
    · exact .inr (.inl (String.le_antisymm (String.not_lt.mp h') (String.not_lt.mp h)))

/-- The dictionary with no entry. -/
def empty : Dict α := ⟨[], .nil⟩

instance : EmptyCollection (Dict α) := ⟨empty⟩
instance : Inhabited (Dict α) := ⟨empty⟩

/-- Whether the dictionary has no entry. -/
def isEmpty (d : Dict α) : Bool := d.entries.isEmpty

/-- The keys, in increasing order. -/
def keys (d : Dict α) : List String := d.entries.map (·.1)

/-- The value stored under a key. -/
def find? (d : Dict α) (key : String) : Option α := d.entries.lookup key

/-- Whether a key has a value. -/
def contains (d : Dict α) (key : String) : Bool := (d.find? key).isSome

/-- The entries with one key set, in a list whose keys increase. -/
def insertEntry (key : String) (value : α) : List (String × α) → List (String × α)
  | [] => [(key, value)]
  | (k, v) :: rest =>
    if key < k then (key, value) :: (k, v) :: rest
    else if key = k then (key, value) :: rest
    else (k, v) :: insertEntry key value rest

theorem mem_insertEntry {key : String} {value : α} {l : List (String × α)} {e : String × α}
    (h : e ∈ insertEntry key value l) : e = (key, value) ∨ e ∈ l := by
  induction l with
  | nil => simpa [insertEntry] using h
  | cons p rest ih =>
    obtain ⟨k, v⟩ := p
    simp only [insertEntry] at h
    split at h
    · simpa using h
    · split at h
      · simp only [List.mem_cons] at h ⊢
        exact h.imp id .inr
      · simp only [List.mem_cons] at h ⊢
        rcases h with h | h
        · exact .inr (.inl h)
        · exact (ih h).imp id .inr

theorem insertEntry_sorted {key : String} {value : α} {l : List (String × α)}
    (h : l.Pairwise (fun a b => a.1 < b.1)) :
    (insertEntry key value l).Pairwise (fun a b => a.1 < b.1) := by
  induction l with
  | nil => simp [insertEntry]
  | cons p rest ih =>
    obtain ⟨k, v⟩ := p
    have hrest := List.pairwise_cons.mp h
    simp only [insertEntry]
    split
    · rename_i hlt
      refine List.pairwise_cons.mpr ⟨fun e he => ?_, h⟩
      rcases List.mem_cons.mp he with rfl | he
      · exact hlt
      · exact String.lt_trans hlt (hrest.1 e he)
    · split
      · rename_i heq
        subst heq
        exact List.pairwise_cons.mpr ⟨hrest.1, hrest.2⟩
      · rename_i hlt hne
        refine List.pairwise_cons.mpr ⟨fun e he => ?_, ih hrest.2⟩
        rcases mem_insertEntry he with rfl | he
        · exact ((key_trichotomy key k).resolve_left hlt).resolve_left hne
        · exact hrest.1 e he

/-- The dictionary with one key set to a value. -/
def insert (d : Dict α) (key : String) (value : α) : Dict α :=
  ⟨insertEntry key value d.entries, insertEntry_sorted d.sorted⟩

/-- The dictionary without one key. -/
def erase (d : Dict α) (key : String) : Dict α :=
  ⟨d.entries.filter (fun e => e.1 != key), d.sorted.filter _⟩

/-- The dictionary of a list of entries; of two entries with one key the later one counts. -/
def ofList (l : List (String × α)) : Dict α :=
  l.foldl (fun d e => d.insert e.1 e.2) empty

/-- The dictionary with every value changed by a function. -/
def map (f : α → β) (d : Dict α) : Dict β :=
  ⟨d.entries.map (fun e => (e.1, f e.2)),
    List.pairwise_map.mpr (d.sorted.imp (fun h => h))⟩

/-- The value under a key after a change by a function that also sees that there was none. -/
def alter (d : Dict α) (key : String) (f : Option α → α) : Dict α :=
  d.insert key (f (d.find? key))

/-! ### What a change does to the lookups -/

theorem lookup_cons_eq {κ : Type} [BEq κ] [LawfulBEq κ] [DecidableEq κ] (k : κ) (e : κ × α)
    (rest : List (κ × α)) :
    (e :: rest).lookup k = if k = e.1 then some e.2 else rest.lookup k := by
  rw [List.lookup_cons]
  by_cases h : k = e.1
  · simp [h]
  · simp [beq_eq_false_iff_ne.mpr h, h]

theorem lookup_insertEntry (key : String) (value : α) (l : List (String × α)) (k : String) :
    (insertEntry key value l).lookup k = if k = key then some value else l.lookup k := by
  induction l with
  | nil => simp [insertEntry, lookup_cons_eq]
  | cons p rest ih =>
    simp only [insertEntry]
    split
    · simp [lookup_cons_eq]
    · split
      · rename_i heq
        by_cases hk : k = key <;> simp [lookup_cons_eq, hk, ← heq]
      · rename_i hne
        rw [lookup_cons_eq, lookup_cons_eq, ih]
        by_cases hk : k = key
        · subst hk; simp [hne]
        · simp [hk]

@[simp] theorem find?_insert (d : Dict α) (key : String) (value : α) (k : String) :
    (d.insert key value).find? k = if k = key then some value else d.find? k :=
  lookup_insertEntry key value d.entries k

@[simp] theorem find?_empty (k : String) : (empty : Dict α).find? k = none := rfl

theorem lookup_filter_ne (key k : String) (l : List (String × α)) :
    (l.filter (fun e => e.1 != key)).lookup k = if k = key then none else l.lookup k := by
  induction l with
  | nil => simp
  | cons p rest ih =>
    by_cases h : p.1 = key
    · rw [List.filter_cons_of_neg (by simp [h]), ih, lookup_cons_eq]
      by_cases hk : k = key <;> simp [hk, h]
    · rw [List.filter_cons_of_pos (by simp [h]), lookup_cons_eq, lookup_cons_eq, ih]
      by_cases hk : k = key
      · subst hk; simp [Ne.symm h]
      · simp [hk]

@[simp] theorem find?_erase (d : Dict α) (key k : String) :
    (d.erase key).find? k = if k = key then none else d.find? k :=
  lookup_filter_ne key k d.entries

theorem lookup_map (f : α → β) (l : List (String × α)) (k : String) :
    (l.map (fun e => (e.1, f e.2))).lookup k = (l.lookup k).map f := by
  induction l with
  | nil => rfl
  | cons p rest ih =>
    rw [List.map_cons, lookup_cons_eq, lookup_cons_eq, ih]
    split <;> rfl

@[simp] theorem find?_map (f : α → β) (d : Dict α) (k : String) :
    (d.map f).find? k = (d.find? k).map f :=
  lookup_map f d.entries k

theorem mem_of_lookup {κ : Type} [BEq κ] [LawfulBEq κ] [DecidableEq κ] {l : List (κ × α)} {k : κ}
    {v : α} (h : l.lookup k = some v) : (k, v) ∈ l := by
  induction l with
  | nil => cases h
  | cons p rest ih =>
    rw [lookup_cons_eq] at h
    split at h
    · rename_i hk
      exact List.mem_cons.mpr (.inl (by rw [hk, ← Option.some.inj h]))
    · exact List.mem_cons_of_mem p (ih h)

/-- A value that is found is that of an entry. -/
theorem mem_of_find? {d : Dict α} {k : String} {v : α} (h : d.find? k = some v) :
    (k, v) ∈ d.entries :=
  mem_of_lookup h

theorem lookup_eq_none_of_lt {l : List (String × α)} {k : String}
    (h : ∀ e ∈ l, k < e.1) : l.lookup k = none := by
  induction l with
  | nil => rfl
  | cons p rest ih =>
    have hne : k ≠ p.1 := fun e => String.lt_irrefl p.1 (e ▸ h p (by simp))
    rw [lookup_cons_eq, if_neg hne]
    exact ih (fun e he => h e (by simp [he]))

theorem entries_eq_of_lookup_eq {l m : List (String × α)}
    (hl : l.Pairwise (fun a b => a.1 < b.1)) (hm : m.Pairwise (fun a b => a.1 < b.1))
    (h : ∀ k, l.lookup k = m.lookup k) : l = m := by
  induction l generalizing m with
  | nil =>
    cases m with
    | nil => rfl
    | cons p rest => simpa [lookup_cons_eq] using h p.1
  | cons p rest ih =>
    obtain ⟨k, v⟩ := p
    cases m with
    | nil => simpa [lookup_cons_eq] using h k
    | cons q rest' =>
      obtain ⟨k', v'⟩ := q
      have hl' := List.pairwise_cons.mp hl
      have hm' := List.pairwise_cons.mp hm
      have hk : k = k' := by
        rcases key_trichotomy k k' with hlt | heq | hlt
        · have := h k
          rw [lookup_eq_none_of_lt (l := (k', v') :: rest')] at this
          · simp at this
          · intro e he
            rcases List.mem_cons.mp he with rfl | he
            · exact hlt
            · exact String.lt_trans hlt (hm'.1 e he)
        · exact heq
        · have := h k'
          rw [lookup_eq_none_of_lt (l := (k, v) :: rest)] at this
          · simp at this
          · intro e he
            rcases List.mem_cons.mp he with rfl | he
            · exact hlt
            · exact String.lt_trans hlt (hl'.1 e he)
      subst hk
      have hv : v = v' := by simpa using h k
      subst hv
      refine congrArg _ (ih hl'.2 hm'.2 fun j => ?_)
      by_cases hj : j = k
      · subst hj
        rw [lookup_eq_none_of_lt hl'.1, lookup_eq_none_of_lt hm'.1]
      · simpa [lookup_cons_eq, hj] using h j

/-- Two dictionaries with the same lookups are equal. -/
theorem ext_find? {d e : Dict α} (h : ∀ k, d.find? k = e.find? k) : d = e := by
  obtain ⟨l, hl⟩ := d
  obtain ⟨m, hm⟩ := e
  have := entries_eq_of_lookup_eq hl hm h
  subst this
  rfl

end Dict

/-- The tags of a resource: values by key. -/
abbrev Tags := Dict String

/-- Whether a tag is present with exactly this value. -/
def Dict.hasValue (tags : Tags) (key value : String) : Bool :=
  tags.find? key == some value

end Cutover
