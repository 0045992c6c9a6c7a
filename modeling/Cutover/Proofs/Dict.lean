/-
**Dictionaries and lists of entries.**

A dictionary is built up entry by entry.  If no key stands twice in the list, then looking a key up
in the dictionary is looking it up in the list, so the entries of a dictionary make it again.  What
is related entry by entry is related key by key.

Main results:

* `Cutover.Dict.find?_ofList` — a dictionary made from a list without a key that stands twice;
* `Cutover.Dict.find?_ofList_last` — a dictionary made from any list: the last entry counts;
* `Cutover.Dict.ofList_entries` — the entries of a dictionary make it again;
* `Cutover.Dict.lookup_of_forall₂` — looking a key up in two lists that are related.
-/
import Mathlib.Data.List.Forall2
import Mathlib.Data.List.Induction
import Mathlib.Data.List.Nodup
import Cutover.Dict

set_option autoImplicit false

namespace Cutover.Dict

variable {α β : Type}

/-! ### Lists of entries -/

section Entries

variable {κ : Type} [BEq κ] [LawfulBEq κ] [DecidableEq κ]

/-- A key that is not in a list is not found. -/
theorem lookup_eq_none {l : List (κ × α)} {k : κ} (hk : k ∉ l.map (·.1)) :
    l.lookup k = none := by
  induction l with
  | nil => rfl
  | cons e rest ih =>
      rw [List.map_cons, List.mem_cons, not_or] at hk
      rw [lookup_cons_eq, if_neg hk.1]
      exact ih hk.2

/-- What stands in a list in which no key stands twice is found in it. -/
theorem lookup_of_mem {l : List (κ × α)} (hl : (l.map (·.1)).Nodup) {e : κ × α}
    (he : e ∈ l) : l.lookup e.1 = some e.2 := by
  induction l with
  | nil => cases he
  | cons e' rest ih =>
      rw [List.map_cons, List.nodup_cons] at hl
      rw [lookup_cons_eq]
      rcases List.mem_cons.1 he with rfl | he
      · rw [if_pos rfl]
      · have hne : e.1 ≠ e'.1 := by
          intro heq
          rw [← heq] at hl
          exact hl.1 (List.mem_map_of_mem he)
        rw [if_neg hne]
        exact ih hl.2 he

/-- Where no key stands twice, what is found is what stands there. -/
theorem lookup_eq_some_iff {l : List (κ × α)} (hl : (l.map (·.1)).Nodup) {k : κ} {v : α} :
    l.lookup k = some v ↔ (k, v) ∈ l :=
  ⟨mem_of_lookup, fun h => lookup_of_mem hl (e := (k, v)) h⟩

end Entries

/-! ### Dictionaries -/

/-- No key stands twice among the entries. -/
theorem keys_nodup (d : Dict α) : (d.entries.map (·.1)).Nodup := by
  have hne : d.entries.Pairwise (fun a b => a.1 ≠ b.1) := by
    refine d.sorted.imp fun {a b} hlt heq => ?_
    rw [heq] at hlt
    exact String.lt_irrefl b.1 hlt
  exact List.pairwise_map.2 hne

/-- No key stands twice in a list whose keys increase. -/
theorem nodup_of_sorted {l : List (String × α)} (hl : l.Pairwise (fun a b => a.1 < b.1)) :
    (l.map (·.1)).Nodup :=
  keys_nodup ⟨l, hl⟩

/-- Keys that increase still do where values are changed and entries are left out. -/
theorem sorted_filterMap {l : List (String × α)} (hl : l.Pairwise (fun a b => a.1 < b.1))
    (f : String → α → Option β) :
    (l.filterMap fun e => (f e.1 e.2).map (e.1, ·)).Pairwise (fun a b => a.1 < b.1) := by
  refine hl.filterMap _ fun a b hlt a' ha b' hb => ?_
  obtain ⟨_, _, rfl⟩ := Option.map_eq_some_iff.1 ha
  obtain ⟨_, _, rfl⟩ := Option.map_eq_some_iff.1 hb
  exact hlt

/-- Where values are changed and entries are left out, so is what is found. -/
theorem lookup_filterMap {l : List (String × α)} (hl : (l.map (·.1)).Nodup)
    (f : String → α → Option β) (k : String) :
    (l.filterMap fun e => (f e.1 e.2).map (e.1, ·)).lookup k = (l.lookup k).bind (f k) := by
  induction l with
  | nil => rfl
  | cons e rest ih =>
      rw [List.map_cons, List.nodup_cons] at hl
      rw [lookup_cons_eq]
      by_cases hk : k = e.1
      · subst hk
        rw [if_pos rfl, Option.bind_some]
        cases hvalue : f e.1 e.2 with
        | none =>
            rw [List.filterMap_cons_none (by rw [hvalue]; rfl), ih hl.2, lookup_eq_none hl.1]
            rfl
        | some v =>
            rw [List.filterMap_cons_some (by rw [hvalue]; rfl), lookup_cons_eq, if_pos rfl]
      · rw [if_neg hk]
        cases hvalue : f e.1 e.2 with
        | none => rw [List.filterMap_cons_none (by rw [hvalue]; rfl), ih hl.2]
        | some v =>
            rw [List.filterMap_cons_some (by rw [hvalue]; rfl), lookup_cons_eq, if_neg hk, ih hl.2]

/-- An entry is found under its key. -/
theorem find?_of_mem {d : Dict α} {e : String × α} (he : e ∈ d.entries) :
    d.find? e.1 = some e.2 :=
  lookup_of_mem d.keys_nodup he

/-- A key of a dictionary is one that is found in it. -/
theorem mem_keys_iff {d : Dict α} {k : String} : k ∈ d.keys ↔ ∃ v, d.find? k = some v := by
  constructor
  · intro hk
    obtain ⟨e, he, rfl⟩ := List.mem_map.1 hk
    exact ⟨e.2, find?_of_mem he⟩
  · rintro ⟨v, hv⟩
    exact List.mem_map_of_mem (mem_of_find? hv)

/-- What is added to a dictionary is found in it. -/
theorem find?_foldl_insert {l : List (String × α)} (hl : (l.map (·.1)).Nodup) (d : Dict α)
    (k : String) :
    (l.foldl (fun d e => d.insert e.1 e.2) d).find? k = (l.lookup k).or (d.find? k) := by
  induction l generalizing d with
  | nil => rfl
  | cons e rest ih =>
      have hnodup := List.nodup_cons.1 hl
      rw [List.foldl_cons, ih hnodup.2, find?_insert, lookup_cons_eq]
      by_cases hk : k = e.1
      · have hlater : rest.lookup k = none := lookup_eq_none (hk ▸ hnodup.1)
        simp [hk, hk ▸ hlater]
      · simp [hk]

/-- A key is found in a dictionary where it stands in the list that makes it. -/
theorem find?_ofList {l : List (String × α)} (hl : (l.map (·.1)).Nodup) (k : String) :
    (ofList l).find? k = l.lookup k := by
  rw [ofList, find?_foldl_insert hl, find?_empty, Option.or_none]

theorem find?_ofList_single (name : String) (x : α) (k : String) :
    (ofList [(name, x)]).find? k = if k = name then some x else none :=
  find?_insert _ _ _ _

theorem find?_ofList_pair (first second : String) (x y : α) (k : String) :
    (ofList [(first, x), (second, y)]).find? k =
      if k = second then some y else if k = first then some x else none := by
  rw [← find?_ofList_single]
  exact find?_insert _ _ _ _

/-- Of several entries with one key the last is found. -/
theorem find?_ofList_last (l : List (String × α)) (k : String) :
    (ofList l).find? k = (l.filter (·.1 = k)).getLast?.map (·.2) := by
  induction l using List.reverseRecOn with
  | nil => rfl
  | append_singleton l e ih =>
      have hlast : ofList (l ++ [e]) = (ofList l).insert e.1 e.2 := List.foldl_append
      rw [hlast, find?_insert, List.filter_append]
      by_cases hk : k = e.1
      · simp [hk]
      · simp [hk, Ne.symm hk, ih]

/-! ### Entry by entry -/

/-- Lists that agree entry by entry have the same keys. -/
theorem keys_of_forall₂ {R : α → β → Prop} {l : List (String × α)} {l' : List (String × β)}
    (h : List.Forall₂ (fun e e' => e.1 = e'.1 ∧ R e.2 e'.2) l l') :
    l.map (·.1) = l'.map (·.1) := by
  induction h with
  | nil => rfl
  | cons he _ ih => rw [List.map_cons, List.map_cons, he.1, ih]

/-- Lists that agree entry by entry agree in what is found. -/
theorem lookup_of_forall₂ {R : α → β → Prop} {l : List (String × α)} {l' : List (String × β)}
    (h : List.Forall₂ (fun e e' => e.1 = e'.1 ∧ R e.2 e'.2) l l') (k : String) :
    Option.Rel R (l.lookup k) (l'.lookup k) := by
  induction h with
  | nil => exact .none
  | cons he _ ih =>
      rw [lookup_cons_eq, lookup_cons_eq, he.1]
      split
      · exact .some he.2
      · exact ih

/-- What is found has a counterpart. -/
theorem exists_of_rel {R : α → β → Prop} {x : Option α} {y : Option β} (h : Option.Rel R x y)
    {a : α} (hx : x = some a) : ∃ b, y = some b ∧ R a b := by
  subst hx
  cases h with
  | some hab => exact ⟨_, rfl, hab⟩

/-- Where nothing is found there is no counterpart. -/
theorem eq_none_of_rel {R : α → β → Prop} {y : Option β} (h : Option.Rel R none y) : y = none := by
  cases h
  rfl

/-- What is found has only one counterpart if a value has only one. -/
theorem rightUnique_rel {R : α → β → Prop} (hR : Relator.RightUnique R) :
    Relator.RightUnique (Option.Rel R) := by
  intro x y z hy hz
  cases hy with
  | none => cases hz; rfl
  | some hab =>
      cases hz with
      | some hac => rw [hR hab hac]

/-- The entries of a dictionary make it again. -/
@[simp] theorem ofList_entries (d : Dict α) : ofList d.entries = d := by
  refine ext_find? fun k => ?_
  rw [find?_ofList d.keys_nodup]
  rfl

end Cutover.Dict
