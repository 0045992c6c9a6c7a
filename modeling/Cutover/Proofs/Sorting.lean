/-
**Sorting that keeps the order of equals.**

Rules are sorted by their depth and events by their time, and in both cases those between which the
order does not decide have to stay as they were.

Main results:

* `Cutover.filter_mergeSort` — elements between which the order does not decide keep their order;
* `Cutover.forall₂_mergeSort` — lists whose elements correspond still do once both are sorted.
-/
import Mathlib.Data.List.Forall2
import Mathlib.Data.List.Pairwise

set_option autoImplicit false

namespace Cutover

variable {α : Type} {le : α → α → Bool}

/-- Elements between which the order does not decide keep their order. -/
theorem filter_mergeSort (htrans : ∀ a b c, le a b = true → le b c = true → le a c = true)
    (htotal : ∀ a b, (le a b || le b a) = true) {p : α → Bool}
    (hp : ∀ a b, p a = true → p b = true → le a b = true) (l : List α) :
    (l.mergeSort le).filter p = l.filter p := by
  have hequal : (l.filter p).Pairwise fun a b => le a b = true :=
    List.pairwise_of_forall_mem_list fun a ha b hb =>
      hp a b (List.mem_filter.1 ha).2 (List.mem_filter.1 hb).2
  -- they are a sorted part of the list, which a stable sort leaves as it is
  have hkept : (l.filter p).Sublist (l.mergeSort le) :=
    List.sublist_mergeSort htrans htotal hequal List.filter_sublist
  have hsub : (l.filter p).Sublist ((l.mergeSort le).filter p) := by
    simpa using hkept.filter p
  have hlength : ((l.mergeSort le).filter p).length = (l.filter p).length :=
    ((List.mergeSort_perm l le).filter p).length_eq
  exact (hsub.eq_of_length hlength.symm).symm

/-- If the elements of two lists correspond, and the orders agree on corresponding elements, then
they correspond once both lists are sorted. -/
theorem forall₂_mergeSort {β : Type} {le' : β → β → Bool} {R : α → β → Prop}
    (hle : ∀ a b a' b', R a a' → R b b' → le a b = le' a' b') {l : List α} {l' : List β}
    (hl : List.Forall₂ R l l') : List.Forall₂ R (l.mergeSort le) (l'.mergeSort le') := by
  obtain ⟨hlength, hpairs⟩ := List.forall₂_iff_zip.1 hl
  -- both lists are sorted as one list of pairs
  let lePair : α × β → α × β → Bool := fun p q => le p.1 q.1
  have hfst : ((l.zip l').mergeSort lePair).map Prod.fst = l.mergeSort le := by
    rw [List.map_mergeSort (s := le) fun _ _ _ _ => rfl, List.map_fst_zip (Nat.le_of_eq hlength)]
  have hsnd : ((l.zip l').mergeSort lePair).map Prod.snd = l'.mergeSort le' := by
    rw [List.map_mergeSort (s := le') fun p hp q hq => hle _ _ _ _ (hpairs hp) (hpairs hq),
      List.map_snd_zip (Nat.le_of_eq hlength.symm)]
  rw [← hfst, ← hsnd, List.forall₂_map_left_iff, List.forall₂_map_right_iff]
  exact List.forall₂_same.2 fun p hp => hpairs (List.mem_mergeSort.1 hp)

end Cutover
