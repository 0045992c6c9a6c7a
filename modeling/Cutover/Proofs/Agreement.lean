/-
**The same but for one value.**

Two computations agree if both fail or both succeed, with results that are related.  Agreement goes
from the parts of a computation to the whole, so a computation in which one value can be exchanged
for another one is followed with both of them at once.  What the value is in is mostly a list of
entries, of which one differs.

Main definitions:

* `Cutover.Agree` — two computations both fail, or have related results;
* `Cutover.DifferAt`, `Cutover.Dict.DifferAt` — two lists of entries, or two dictionaries, are the
  same but for the value of one key.

Main results:

* `Cutover.Agree.bind` — two computations agree where their parts do;
* `Cutover.DifferAt.filter`, `Cutover.DifferAt.filter_eq` — the difference between two lists stays
  where entries are passed over, unless it is passed over with them.
-/
import Cutover.Proofs.Dict
import Cutover.Proofs.Result

set_option autoImplicit false

namespace Cutover

variable {ε ε' α α' β β' κ : Type}

/-! ### Computations -/

/-- Two computations both fail, or both succeed with results that are related. -/
inductive Agree (R : α → β → Prop) : Except ε α → Except ε' β → Prop
  | failed {e : ε} {e' : ε'} : Agree R (.error e) (.error e')
  | done {a : α} {b : β} : R a b → Agree R (.ok a) (.ok b)

namespace Agree

variable {R : α → β → Prop} {S : α' → β' → Prop} {m : Except ε α} {m' : Except ε' β}

theorem bind {f : α → Except ε α'} {g : β → Except ε' β'} (h : Agree R m m')
    (hnext : ∀ a b, R a b → Agree S (f a) (g b)) : Agree S (m >>= f) (m' >>= g) := by
  cases h with
  | failed => exact .failed
  | done hab => exact hnext _ _ hab

/-- Where the first part is the same, only what follows it has to agree. -/
theorem bind_same {m : Except ε β} {f : β → Except ε α'} {g : β → Except ε β'}
    (hnext : ∀ b, m = .ok b → Agree S (f b) (g b)) : Agree S (m >>= f) (m >>= g) := by
  cases m with
  | error e => exact .failed
  | ok b => exact hnext b rfl

theorem mono {R' : α → β → Prop} (h : Agree R m m') (hR : ∀ a b, R a b → R' a b) :
    Agree R' m m' := by
  cases h with
  | failed => exact .failed
  | done hab => exact .done (hR _ _ hab)

/-- A result has a counterpart. -/
theorem exists_of_ok (h : Agree R m m') {a : α} (hm : m = .ok a) : ∃ b, m' = .ok b ∧ R a b := by
  subst hm
  cases h with
  | done hab => exact ⟨_, rfl, hab⟩

/-- A result is the counterpart of one. -/
theorem exists_of_ok_right (h : Agree R m m') {b : β} (hm' : m' = .ok b) :
    ∃ a, m = .ok a ∧ R a b := by
  subst hm'
  cases h with
  | done hab => exact ⟨_, rfl, hab⟩

/-- Of two computations that agree one succeeds if and only if the other one does. -/
theorem exists_ok_iff (h : Agree R m m') : (∃ a, m = .ok a) ↔ ∃ b, m' = .ok b := by
  cases h with
  | failed => exact iff_of_false (fun ⟨_, h⟩ => nomatch h) fun ⟨_, h⟩ => nomatch h
  | done hab => exact iff_of_true ⟨_, rfl⟩ ⟨_, rfl⟩

/-- Computations agree if one succeeds where the other one does, and their results are related. -/
theorem of_exists_ok_iff (hiff : (∃ a, m = .ok a) ↔ ∃ b, m' = .ok b)
    (hR : ∀ a b, m = .ok a → m' = .ok b → R a b) : Agree R m m' := by
  cases m with
  | ok a =>
      obtain ⟨b, rfl⟩ := hiff.1 ⟨a, rfl⟩
      exact .done (hR a b rfl rfl)
  | error e =>
      cases m' with
      | error e' => exact .failed
      | ok b =>
          obtain ⟨a, ha⟩ := hiff.2 ⟨b, rfl⟩
          cases ha

end Agree

/-! ### Lists of entries -/

/-- Two lists of entries are the same but for the value of one key. -/
inductive DifferAt (key : κ) (R : α → α → Prop) : List (κ × α) → List (κ × α) → Prop
  | here {x x' : α} (rest : List (κ × α)) :
      R x x' → DifferAt key R ((key, x) :: rest) ((key, x') :: rest)
  | there (e : κ × α) {l l' : List (κ × α)} :
      DifferAt key R l l' → DifferAt key R (e :: l) (e :: l')

namespace DifferAt

variable {key : κ} {R : α → α → Prop} {l l' : List (κ × α)}

theorem append_left (h : DifferAt key R l l') (before : List (κ × α)) :
    DifferAt key R (before ++ l) (before ++ l') := by
  induction before with
  | nil => exact h
  | cons e _ ih => exact .there e ih

theorem append_right (h : DifferAt key R l l') (after : List (κ × α)) :
    DifferAt key R (l ++ after) (l' ++ after) := by
  induction h with
  | here rest hx => exact .here (rest ++ after) hx
  | there e _ ih => exact .there e ih

theorem mono {R' : α → α → Prop} (h : DifferAt key R l l') (hR : ∀ x x', R x x' → R' x x') :
    DifferAt key R' l l' := by
  induction h with
  | here rest hx => exact .here rest (hR _ _ hx)
  | there e _ ih => exact .there e ih

/-- The keys are the same. -/
theorem keys_eq (h : DifferAt key R l l') : l.map (·.1) = l'.map (·.1) := by
  induction h with
  | here rest _ => rfl
  | there e _ ih => exact congrArg (e.1 :: ·) ih

/-- Where the key is passed over, so is the difference. -/
theorem filter_eq {p : κ → Bool} (h : DifferAt key R l l') (hp : p key = false) :
    l.filter (p ·.1) = l'.filter (p ·.1) := by
  induction h with
  | here rest _ => simp only [List.filter_cons, hp, Bool.false_eq_true, if_false]
  | there e _ ih => rw [List.filter_cons, List.filter_cons, ih]

/-- Where the key is kept, so is the difference. -/
theorem filter {p : κ → Bool} (h : DifferAt key R l l') (hp : p key = true) :
    DifferAt key R (l.filter (p ·.1)) (l'.filter (p ·.1)) := by
  induction h with
  | here rest hx =>
      simp only [List.filter_cons, hp, if_true]
      exact .here _ hx
  | there e _ ih =>
      rw [List.filter_cons, List.filter_cons]
      split
      · exact .there e ih
      · exact ih

end DifferAt

/-! ### Dictionaries -/

/-- Two dictionaries are the same but for the value of one key. -/
structure Dict.DifferAt (name : String) (R : α → α → Prop) (d d' : Dict α) : Prop where
  find?_ne : ∀ k, k ≠ name → d.find? k = d'.find? k
  find?_eq : ∃ x x', d.find? name = some x ∧ d'.find? name = some x' ∧ R x x'

/-- Dictionaries made from lists that differ in the last value of a key. -/
theorem Dict.differAt_ofList {name : String} {R : α → α → Prop} {x x' : α} (h : R x x')
    (before : List (String × α)) {after : List (String × α)} (hlast : ∀ e ∈ after, e.1 ≠ name) :
    Dict.DifferAt name R (ofList (before ++ (name, x) :: after))
      (ofList (before ++ (name, x') :: after)) := by
  have hafter : after.filter (·.1 = name) = [] :=
    List.filter_eq_nil_iff.2 fun e he => by simpa using hlast e he
  constructor
  · intro k hk
    simp [find?_ofList_last, Ne.symm hk]
  · refine ⟨x, x', ?_, ?_, h⟩ <;> simp [find?_ofList_last, hafter]

end Cutover
