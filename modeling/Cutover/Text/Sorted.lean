/-
**Sets of texts.**

A set of texts is written down as the list of its members in increasing order, each of them once.
Two lists of texts have the same members exactly if their sorted sets are equal.

Main definitions:

* `Cutover.Text.sortedSet` — the members of a list in increasing order.

Main results:

* `Cutover.Text.mem_sortedSet` — the members are those of the list;
* `Cutover.Text.sortedSet_sorted` — the order is strict;
* `Cutover.Text.sortedSet_eq_iff` — equal sets are equal lists.
-/

set_option autoImplicit false

namespace Cutover.Text

/-- A list in increasing order with one more member. -/
def insertSorted (s : String) : List String → List String
  | [] => [s]
  | t :: rest =>
    if s < t then s :: t :: rest
    else if s = t then t :: rest
    else t :: insertSorted s rest

/-- The members of a list in increasing order. -/
def sortedSet (l : List String) : List String := l.foldr insertSorted []

@[simp] theorem mem_insertSorted {s x : String} {l : List String} :
    x ∈ insertSorted s l ↔ x = s ∨ x ∈ l := by
  induction l with
  | nil => simp [insertSorted]
  | cons t rest ih =>
    unfold insertSorted
    split
    · simp
    · split
      · rename_i h
        subst h
        simp
      · simp only [List.mem_cons, ih]
        exact or_left_comm

theorem insertSorted_sorted {s : String} {l : List String} (h : l.Pairwise (· < ·)) :
    (insertSorted s l).Pairwise (· < ·) := by
  induction l with
  | nil => simp [insertSorted]
  | cons t rest ih =>
    have hrest := List.pairwise_cons.mp h
    unfold insertSorted
    split
    · rename_i hlt
      refine List.pairwise_cons.mpr ⟨fun x hx => ?_, h⟩
      rcases List.mem_cons.mp hx with rfl | hx
      · exact hlt
      · exact String.lt_trans hlt (hrest.1 x hx)
    · split
      · exact h
      · rename_i hlt hne
        refine List.pairwise_cons.mpr ⟨fun x hx => ?_, ih hrest.2⟩
        rcases mem_insertSorted.mp hx with rfl | hx
        · by_cases hlt' : t < x
          · exact hlt'
          · exact absurd (String.le_antisymm (String.not_lt.mp hlt') (String.not_lt.mp hlt)) hne
        · exact hrest.1 x hx

/-- The members of the sorted set are those of the list. -/
@[simp] theorem mem_sortedSet {x : String} {l : List String} : x ∈ sortedSet l ↔ x ∈ l := by
  induction l with
  | nil => simp [sortedSet]
  | cons s l ih =>
    simp only [sortedSet, List.foldr_cons, mem_insertSorted, List.mem_cons] at ih ⊢
    rw [ih]

/-- The order of the sorted set is strict. -/
theorem sortedSet_sorted (l : List String) : (sortedSet l).Pairwise (· < ·) := by
  induction l with
  | nil => simp [sortedSet]
  | cons s l ih => exact insertSorted_sorted ih

/-- Lists in strict order with the same members are equal. -/
theorem eq_of_sorted {l m : List String} (hl : l.Pairwise (· < ·)) (hm : m.Pairwise (· < ·))
    (h : ∀ x, x ∈ l ↔ x ∈ m) : l = m := by
  induction l generalizing m with
  | nil =>
    cases m with
    | nil => rfl
    | cons t m => simpa using h t
  | cons s l ih =>
    cases m with
    | nil => simpa using h s
    | cons t m =>
      have hl' := List.pairwise_cons.mp hl
      have hm' := List.pairwise_cons.mp hm
      have hst : s = t := by
        rcases List.mem_cons.mp ((h s).mp (by simp)) with hs | hs
        · exact hs
        · rcases List.mem_cons.mp ((h t).mpr (by simp)) with ht | ht
          · exact ht.symm
          · exact absurd (hl'.1 t ht) (String.lt_asymm (hm'.1 s hs))
      subst hst
      refine congrArg _ (ih hl'.2 hm'.2 fun x => ?_)
      have hx := h x
      simp only [List.mem_cons] at hx
      constructor
      · intro hxl
        rcases hx.mp (.inr hxl) with rfl | hxm
        · exact absurd (hl'.1 x hxl) (String.lt_irrefl x)
        · exact hxm
      · intro hxm
        rcases hx.mpr (.inr hxm) with rfl | hxl
        · exact absurd (hm'.1 x hxm) (String.lt_irrefl x)
        · exact hxl

/-- Two lists have the same members exactly if their sorted sets are equal. -/
theorem sortedSet_eq_iff {l m : List String} :
    sortedSet l = sortedSet m ↔ ∀ x, x ∈ l ↔ x ∈ m := by
  constructor
  · intro h x
    rw [← mem_sortedSet (l := l), h, mem_sortedSet]
  · intro h
    exact eq_of_sorted (sortedSet_sorted l) (sortedSet_sorted m) fun x => by simpa using h x

end Cutover.Text
