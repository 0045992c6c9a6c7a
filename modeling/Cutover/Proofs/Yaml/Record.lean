/-
**Records do not depend on the order of their entries.**

The entries of a record are put into it one after the other.  If what is read of one field has
nothing to do with what is read of another one, then entries in another order come to the same
record, or to a failure as well; which of several faults is reported does depend on the order.  Nor
does it matter to the other fields if the value of one field is exchanged.

Main definitions:

* `Cutover.Yaml.Record.Separate` — each field is read on its own.

Main results:

* `Cutover.Yaml.Record.foldEntries_cons_eq_ok_iff` — when one more entry can be put into a record;
* `Cutover.Yaml.Record.foldEntries_perm` — **the order of the entries does not matter**;
* `Cutover.Yaml.Record.agree_foldEntries` — what is related in one field is related in the record.
-/
import Mathlib.Data.List.Basic
import Cutover.Proofs.Agreement
import Cutover.Yaml.Record

set_option autoImplicit false

namespace Cutover.Yaml.Record

open Document (Error)

variable {σ : Type} {fields seen seen' : List String}
  {step : String → Value → σ → Except Error σ} {s s' r : σ} {k v : Value} {m m' rest : Mapping}

/-- One more entry can be put into a record if its key is a text that is no field, or a field that
is there for the first time and fits. -/
theorem foldEntries_cons_eq_ok_iff :
    foldEntries fields step seen s ((k, v) :: rest) = .ok r ↔
      ∃ name, text k = .ok name ∧
        ((name ∈ fields ∧ name ∉ seen ∧
            ∃ s', step name v s = .ok s' ∧
              foldEntries fields step (name :: seen) s' rest = .ok r) ∨
          (name ∉ fields ∧ foldEntries fields step seen s rest = .ok r)) := by
  rw [foldEntries, bind_eq_ok_iff]
  refine exists_congr fun name => and_congr_right fun _ => ?_
  by_cases hfield : name ∈ fields
  · rw [if_pos (List.contains_iff_mem.2 hfield)]
    by_cases hseen : name ∈ seen
    · rw [if_pos (List.contains_iff_mem.2 hseen)]
      exact iff_of_false (nomatch ·) (by simp [hfield, hseen])
    · rw [if_neg (mt List.contains_iff_mem.1 hseen), bind_eq_ok_iff]
      simp [hfield, hseen]
  · rw [if_neg (mt List.contains_iff_mem.1 hfield)]
    simp [hfield]

/-- It does not matter in which order the fields have been there. -/
theorem foldEntries_seen (hseen : ∀ name, name ∈ seen ↔ name ∈ seen') :
    foldEntries fields step seen s m = foldEntries fields step seen' s m := by
  induction m generalizing seen seen' s with
  | nil => rfl
  | cons e m ih =>
      have hnext : ∀ name s, foldEntries fields step (name :: seen) s m =
          foldEntries fields step (name :: seen') s m := fun name s =>
        ih fun other => by rw [List.mem_cons, List.mem_cons, hseen]
      have hcontains : ∀ name, seen.contains name = seen'.contains name := fun name => by
        rw [Bool.eq_iff_iff, List.contains_iff_mem, List.contains_iff_mem, hseen]
      simp only [foldEntries, hnext, hcontains, ih hseen]

/-! ### Entries in another order -/

/-- Each field is read on its own: its value says what becomes of the record, and what becomes of it
by two fields does not depend on which one comes first. -/
def Separate (fields : List String) (step : String → Value → σ → Except Error σ) : Prop :=
  ∃ change : String → Value → Except Error (σ → σ),
    (∀ name v s, step name v s = (change name v).map (· s)) ∧
      ∀ a ∈ fields, ∀ b ∈ fields, a ≠ b → ∀ v w f g,
        change a v = .ok f → change b w = .ok g → ∀ s, f (g s) = g (f s)

theorem Separate.swap (hstep : Separate fields step) {a b : String} (ha : a ∈ fields)
    (hb : b ∈ fields) (hne : a ≠ b) {v w : Value} {s₁ s₂ : σ} (h₁ : step a v s = .ok s₁)
    (h₂ : step b w s₁ = .ok s₂) : ∃ s₁', step b w s = .ok s₁' ∧ step a v s₁' = .ok s₂ := by
  obtain ⟨change, hchange, hcomm⟩ := hstep
  rw [hchange] at h₁ h₂
  rw [hchange]
  cases hf : change a v with
  | error e => rw [hf] at h₁; cases h₁
  | ok f =>
      cases hg : change b w with
      | error e => rw [hg] at h₂; cases h₂
      | ok g =>
          rw [hf] at h₁
          rw [hg] at h₂
          cases h₁
          cases h₂
          refine ⟨g s, rfl, ?_⟩
          rw [hchange, hf]
          exact congrArg Except.ok (hcomm a ha b hb hne v w f g hf hg s)

/-- Two entries that stand next to each other can change their places. -/
theorem foldEntries_swap (hstep : Separate fields step) {e e' : Value × Value}
    (h : foldEntries fields step seen s (e :: e' :: rest) = .ok r) :
    foldEntries fields step seen s (e' :: e :: rest) = .ok r := by
  obtain ⟨a, ha, h⟩ := foldEntries_cons_eq_ok_iff.1 h
  refine foldEntries_cons_eq_ok_iff.2 ?_
  rcases h with ⟨hfield, hfirst, s₁, h₁, h⟩ | ⟨hfield, h⟩ <;>
    obtain ⟨b, hb, h⟩ := foldEntries_cons_eq_ok_iff.1 h <;>
    refine ⟨b, hb, ?_⟩ <;>
    rcases h with ⟨hfield', hfirst', s₂, h₂, h⟩ | ⟨hfield', h⟩
  · -- both are fields, and they are different ones
    rw [List.mem_cons, not_or] at hfirst'
    obtain ⟨s₁', h₁', h₂'⟩ := hstep.swap hfield hfield' (Ne.symm hfirst'.1) h₁ h₂
    refine .inl ⟨hfield', hfirst'.2, s₁', h₁', foldEntries_cons_eq_ok_iff.2 ⟨a, ha, .inl ⟨hfield,
      by simp [hfirst, Ne.symm hfirst'.1], s₂, h₂', ?_⟩⟩⟩
    rw [← h]
    exact foldEntries_seen fun name => by simp only [List.mem_cons, or_left_comm]
  · exact .inr ⟨hfield', foldEntries_cons_eq_ok_iff.2 ⟨a, ha, .inl ⟨hfield, hfirst, s₁, h₁, h⟩⟩⟩
  · exact .inl ⟨hfield', hfirst', s₂, h₂, foldEntries_cons_eq_ok_iff.2 ⟨a, ha, .inr ⟨hfield, h⟩⟩⟩
  · exact .inr ⟨hfield', foldEntries_cons_eq_ok_iff.2 ⟨a, ha, .inr ⟨hfield, h⟩⟩⟩

/-- **The order of the entries does not matter.** -/
theorem foldEntries_perm (hstep : Separate fields step) (hperm : m.Perm m') :
    foldEntries fields step seen s m = .ok r ↔ foldEntries fields step seen s m' = .ok r := by
  induction hperm generalizing seen s with
  | nil => exact Iff.rfl
  | cons e _ ih =>
      obtain ⟨k, v⟩ := e
      simp only [foldEntries_cons_eq_ok_iff, ih]
  | swap e e' rest => exact ⟨foldEntries_swap hstep, foldEntries_swap hstep⟩
  | trans _ _ ih ih' => exact ih.trans ih'

/-! ### One field in the place of another -/

section Exchange

variable {name : String} {Q : σ → σ → Prop}

/-- The other fields of a record keep what is related related. -/
theorem agree_foldEntries_after
    (hother : ∀ other ∈ fields, other ≠ name → ∀ v s s', Q s s' →
      Agree Q (step other v s) (step other v s'))
    (hseen : name ∈ seen) (hs : Q s s') (m : Mapping) :
    Agree Q (foldEntries fields step seen s m) (foldEntries fields step seen s' m) := by
  induction m generalizing seen s s' with
  | nil => exact .done hs
  | cons e m ih =>
      refine .bind_same fun other _ => ?_
      split
      · split
        · exact .failed
        · rename_i hfirst
          have hne : other ≠ name := by
            rintro rfl
            exact hfirst (List.contains_iff_mem.2 hseen)
          exact (hother other (List.contains_iff_mem.1 ‹_›) hne e.2 s s' hs).bind fun s₁ s₁' hs₁ =>
            ih (List.mem_cons_of_mem other hseen) hs₁
      · exact ih hseen hs

/-- Entries of which one field is exchanged. -/
theorem agree_foldEntries
    (hother : ∀ other ∈ fields, other ≠ name → ∀ v s s', Q s s' →
      Agree Q (step other v s) (step other v s'))
    (hfield : name ∈ fields)
    (h : DifferAt (.string name) (fun v v' => ∀ s, Agree Q (step name v s) (step name v' s)) m m')
    (s : σ) :
    Agree Q (foldEntries fields step seen s m) (foldEntries fields step seen s m') := by
  induction h generalizing seen s with
  | here rest hv =>
      refine .bind_same fun other hread => ?_
      obtain rfl : name = other := Except.ok.inj hread
      rw [if_pos (List.contains_iff_mem.2 hfield), if_pos (List.contains_iff_mem.2 hfield)]
      split
      · exact .failed
      · exact (hv s).bind fun s₁ s₁' hs₁ =>
          agree_foldEntries_after hother List.mem_cons_self hs₁ rest
  | there e _ ih =>
      refine .bind_same fun other _ => ?_
      split
      · split
        · exact .failed
        · exact .bind_same fun s₁ _ => ih s₁
      · exact ih s

end Exchange

end Cutover.Yaml.Record
