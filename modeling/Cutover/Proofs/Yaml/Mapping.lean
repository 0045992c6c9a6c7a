/-
**Mappings put over each other.**

A mapping is a list of keys with values in which no key stands twice.  Putting one mapping over
another takes each key from the upper one where it is there, whatever its value, and otherwise from
the lower one.  This says which entries the result has but not their order, and nothing that is
asked of the result may depend on the order.

Main definitions:

* `Cutover.Yaml.Mapping.keys` — the keys of a mapping;
* `Cutover.Yaml.Mapping.above` — the entries of a mapping over those of another one;
* `Cutover.Yaml.Mapping.Overlays` — a mapping is what another one comes to over a third.

Main results:

* `Cutover.Yaml.Mapping.overlays_override` — putting one mapping over another comes to that;
* `Cutover.Yaml.Mapping.Overlays.perm` — **there is one such mapping, up to the order**.
-/
import Mathlib.Data.List.Nodup
import Mathlib.Data.List.Perm.Lattice
import Cutover.Proofs.Agreement
import Cutover.Proofs.Dict
import Cutover.Yaml.Value

set_option autoImplicit false

namespace Cutover.Yaml.Mapping

variable {m m' lower upper : Mapping} {k v : Value}

/-- The keys of a mapping. -/
def keys (m : Mapping) : List Value := m.map (·.1)

/-- Two mappings in which the same is found have the same entries. -/
theorem perm_of_lookup (hm : m.keys.Nodup) (hm' : m'.keys.Nodup)
    (hlookup : ∀ k, m.lookup k = m'.lookup k) : m.Perm m' := by
  refine (List.perm_ext_iff_of_nodup hm.of_map hm'.of_map).2 fun e => ?_
  rw [← Dict.lookup_eq_some_iff hm, ← Dict.lookup_eq_some_iff hm', hlookup]

/-! ### One more entry -/

theorem lookup_insert (m : Mapping) (k v j : Value) :
    (m.insert k v).lookup j = if j = k then some v else m.lookup j := by
  induction m with
  | nil => exact Dict.lookup_cons_eq _ _ _
  | cons e m ih =>
      rw [Mapping.insert]
      split
      · rename_i he
        rw [Dict.lookup_cons_eq, Dict.lookup_cons_eq]
        by_cases hj : j = k <;> simp [he, hj]
      · rename_i he
        rw [Dict.lookup_cons_eq, Dict.lookup_cons_eq, ih]
        by_cases hj : j = e.1
        · simp [hj, he]
        · simp [hj]

theorem keys_insert (m : Mapping) (k v : Value) :
    (m.insert k v).keys = if k ∈ m.keys then m.keys else m.keys ++ [k] := by
  induction m with
  | nil => rfl
  | cons e m ih =>
      rw [Mapping.insert]
      split
      · rename_i he
        rw [if_pos (he ▸ List.mem_cons_self)]
        rfl
      · rename_i he
        have hkey : k ∈ keys (e :: m) ↔ k ∈ keys m := by
          rw [keys, List.map_cons, List.mem_cons, or_iff_right (Ne.symm he)]
          rfl
        change e.1 :: keys (Mapping.insert m k v) = _
        rw [ih]
        by_cases hk : k ∈ keys m
        · rw [if_pos hk, if_pos (hkey.2 hk)]
          rfl
        · rw [if_neg hk, if_neg (mt hkey.1 hk)]
          rfl

theorem nodup_insert (hm : m.keys.Nodup) (k v : Value) : (m.insert k v).keys.Nodup := by
  rw [keys_insert]
  split
  · exact hm
  · rename_i hk
    exact List.nodup_append'.2 ⟨hm, List.nodup_singleton k, by simpa using hk⟩

/-! ### One mapping over another -/

/-- What a mapping comes to over another: no key stands twice, and each is taken from the upper
mapping where it is there, and otherwise from the lower one. -/
structure Overlays (lower upper m : Mapping) : Prop where
  nodup : m.keys.Nodup
  lookup_eq : ∀ k, m.lookup k = (upper.lookup k).or (lower.lookup k)

/-- A mapping over another one: its own entries, and those of the lower one whose keys it lacks. -/
def above (upper lower : Mapping) : Mapping := upper ++ lower.filter (·.1 ∉ upper.keys)

theorem overlays_above (hlower : lower.keys.Nodup) (hupper : upper.keys.Nodup) :
    Overlays lower upper (upper.above lower) := by
  have hlacking : (keys (lower.filter (·.1 ∉ upper.keys))).Nodup :=
    hlower.sublist (List.filter_sublist.map _)
  constructor
  · rw [keys, above, List.map_append]
    refine List.nodup_append'.2 ⟨hupper, hlacking, List.disjoint_right.2 fun k hk => ?_⟩
    obtain ⟨e, he, rfl⟩ := List.mem_map.1 hk
    exact of_decide_eq_true (List.mem_filter.1 he).2
  · intro k
    rw [above, List.lookup_append]
    by_cases hk : k ∈ upper.keys
    · obtain ⟨⟨k, v⟩, he, rfl⟩ := List.mem_map.1 hk
      rw [(Dict.lookup_eq_some_iff hupper).2 he]
      rfl
    · congr 1
      refine Option.ext fun v => ?_
      rw [Dict.lookup_eq_some_iff hlacking, Dict.lookup_eq_some_iff hlower, List.mem_filter]
      simp [hk]

theorem overlays_override (hlower : lower.keys.Nodup) (hupper : upper.keys.Nodup) :
    Overlays lower upper (lower.override upper) := by
  induction upper generalizing lower with
  | nil => exact ⟨hlower, fun k => rfl⟩
  | cons e upper ih =>
      obtain ⟨he, hupper⟩ := List.nodup_cons.1 hupper
      obtain ⟨hnodup, hlookup⟩ := ih (nodup_insert hlower e.1 e.2) hupper
      refine ⟨hnodup, fun k => (hlookup k).trans ?_⟩
      rw [lookup_insert, Dict.lookup_cons_eq]
      by_cases hk : k = e.1
      · rw [if_pos hk, if_pos hk, Dict.lookup_eq_none (hk ▸ he)]
        rfl
      · rw [if_neg hk, if_neg hk]

/-- **What a mapping comes to over another is determined, up to the order.** -/
theorem Overlays.perm (hm : Overlays lower upper m) (hm' : Overlays lower upper m') :
    m.Perm m' :=
  perm_of_lookup hm.nodup hm'.nodup fun k => (hm.lookup_eq k).trans (hm'.lookup_eq k).symm

/-! ### One value in the place of another -/

section Exchange

variable {R : Value → Value → Prop} {upper' lower' : Mapping}

/-- A difference in the upper mapping is there to be seen. -/
theorem differAt_above_upper (h : DifferAt k R upper upper') (lower : Mapping) :
    DifferAt k R (upper.above lower) (upper'.above lower) := by
  have hkeys : upper.keys = upper'.keys := h.keys_eq
  rw [above, above, hkeys]
  exact h.append_right _

/-- A difference in the lower mapping is there to be seen where the upper one lacks the key. -/
theorem differAt_above_lower (h : DifferAt k R lower lower') (hk : k ∉ upper.keys) :
    DifferAt k R (upper.above lower) (upper.above lower') :=
  (h.filter (p := (· ∉ upper.keys)) (decide_eq_true hk)).append_left upper

/-- A difference in the lower mapping is not seen where the upper one has the key. -/
theorem above_lower_eq (h : DifferAt k R lower lower') (hk : k ∈ upper.keys) :
    upper.above lower = upper.above lower' :=
  congrArg (upper ++ ·) (h.filter_eq (p := (· ∉ upper.keys)) (by simpa using hk))

end Exchange

end Cutover.Yaml.Mapping
