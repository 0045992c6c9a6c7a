/-
**What can be read from a tree.**

A step of a reading may follow aliases and may fail.  What it can return is determined by what its
parts can return, so a property of everything that is read is proved part by part, and neither the
number of aliases nor the place of a fault has to be looked at.

Main definitions:

* `Cutover.Yaml.Reading.Returns` — what a step can return.

Main results:

* `Cutover.Yaml.Reading.Returns.bind`, `Cutover.Yaml.Reading.Returns.mapM` — the parts of a step;
* `Cutover.Yaml.Reading.record_keeps` — what holds of a record after each of its entries;
* `Cutover.Yaml.Reading.nodup_of_value` — **in a mapping that is read no key stands twice**.
-/
import Mathlib.Data.List.Forall2
import Cutover.Proofs.Dict
import Cutover.Proofs.Result
import Cutover.Proofs.Yaml.Mapping
import Cutover.Yaml.Reading

set_option autoImplicit false

namespace Cutover.Yaml

open Document (Error)

/-- A document with another root. -/
def Tree.withRoot (d : Tree) (root : Node) : Tree := { d with root := some root }

namespace Reading

variable {α β σ : Type} {d : Tree}

/-- A step can return a value: it does so after some number of aliases. -/
def Returns (m : Reading α) (x : α) : Prop := ∃ k k', m.run k = .ok (x, k')

namespace Returns

theorem bind {m : Reading α} {f : α → Reading β} {y : β} (h : Returns (m >>= f) y) :
    ∃ x, Returns m x ∧ Returns (f x) y := by
  obtain ⟨k, k', hrun⟩ := h
  rw [StateT.run_bind] at hrun
  obtain ⟨⟨x, k₁⟩, hx, hy⟩ := bind_eq_ok_iff.1 hrun
  exact ⟨x, ⟨k, k₁, hx⟩, k₁, k', hy⟩

theorem pure {x y : α} (h : Returns (Pure.pure x) y) : y = x := by
  obtain ⟨k, k', hrun⟩ := h
  cases hrun
  rfl

theorem lift {m : Except Error α} {x : α} (h : Returns (liftM m) x) : m = .ok x := by
  obtain ⟨k, k', hrun⟩ := h
  cases m with
  | error e => cases hrun
  | ok y => cases hrun; rfl

theorem throw {e : Error} {x : α} (h : Returns (throw e) x) : False := by
  obtain ⟨k, k', hrun⟩ := h
  cases hrun

/-- What is read of the members of a list is read of one of them. -/
theorem mapM {f : α → Reading β} {l : List α} {ys : List β} (h : Returns (l.mapM f) ys) :
    ∀ y ∈ ys, ∃ x ∈ l, Returns (f x) y := by
  induction l generalizing ys with
  | nil => rw [pure h]; exact List.forall_mem_nil _
  | cons x l ih =>
      rw [List.mapM_cons] at h
      obtain ⟨y, hy, h⟩ := bind h
      obtain ⟨ys, hys, h⟩ := bind h
      rw [pure h]
      refine List.forall_mem_cons.2 ⟨⟨x, List.mem_cons_self, hy⟩, fun y' hy' => ?_⟩
      obtain ⟨x', hx', hread⟩ := ih hys y' hy'
      exact ⟨x', List.mem_cons_of_mem x hx', hread⟩

end Returns

/-! ### Mappings -/

/-- Entries are taken only as long as no key stands twice. -/
theorem nodup_of_distinct {read : Node → Reading Value} {m m' : Mapping}
    {entries : List (Node × Node)} (hm : m.keys.Nodup)
    (h : Returns (distinct read m entries) m') : m'.keys.Nodup := by
  induction entries generalizing m with
  | nil => rwa [h.pure]
  | cons e entries ih =>
      obtain ⟨key, -, h⟩ := h.bind
      split at h
      · exact h.throw.elim
      · rename_i hnew
        obtain ⟨v, -, h⟩ := h.bind
        refine ih ?_ h
        have hkey : key ∉ m.keys := by
          intro hmem
          obtain ⟨e, he, rfl⟩ := List.mem_map.1 hmem
          exact hnew (List.any_eq_true.2 ⟨e, he, decide_eq_true rfl⟩)
        rw [Mapping.keys, List.map_append]
        exact List.nodup_append'.2
          ⟨hm, List.nodup_singleton _, List.disjoint_singleton.2 hkey⟩

/-- A value with the tag that stays with it. -/
def owned (tag : Option String) (v : Value) : Value :=
  match ownTag tag with
  | some name => .tagged name v
  | none => v

/-- A tagged value is no mapping. -/
theorem eq_mapping_of_owned {tag : Option String} {v : Value} {m : Mapping}
    (h : owned tag v = .mapping m) : v = .mapping m := by
  rw [owned] at h
  split at h
  · cases h
  · exact h

/-- What a scalar stands for, next to a tag that stays with it. -/
theorem valueWithin_scalar (d : Tree) (fuel depth : Nat) (tag : Option String) (style : Style)
    (text : String) :
    valueWithin d (fuel + 1) depth (.scalar tag style text) = do
      let scalar ← liftM (match ownTag tag with
        | some _ => .ok (Scalar.ofStyle style text)
        | none => Scalar.ofNode tag style text : Except Error Scalar)
      return owned tag (← (Value.ofScalar scalar : Except Error Value)) := by
  rw [valueWithin]
  cases ownTag tag <;> rfl

theorem valueWithin_mapping (d : Tree) (fuel depth : Nat) (tag : Option String)
    (entries : List (Node × Node)) (closed : Bool) :
    valueWithin d (fuel + 1) (depth + 1) (.mapping tag entries closed) = (do
      let m ← distinct (valueWithin d fuel depth) [] entries
      if closed then return owned tag (.mapping m) else throw brokenOff) :=
  rfl

/-- A scalar is no mapping. -/
theorem ofScalar_ne_mapping {x : Scalar} {m : Mapping} : Value.ofScalar x ≠ .ok (.mapping m) := by
  cases x <;> exact (nomatch ·)

/-- **In a mapping that is read no key stands twice.** -/
theorem nodup_of_value {fuel depth : Nat} {n : Node} {m : Mapping}
    (h : Returns (valueWithin d fuel depth n) (.mapping m)) : m.keys.Nodup := by
  induction fuel generalizing depth n with
  | zero => exact h.throw.elim
  | succ fuel ih =>
      match n, depth, h with
      | .broken, _, h => exact h.throw.elim
      | .alias anchor, _, h =>
          obtain ⟨n, -, h⟩ := h.bind
          exact ih h
      | .scalar tag style text, _, h =>
          rw [valueWithin_scalar] at h
          obtain ⟨x, -, h⟩ := h.bind
          obtain ⟨v, hv, h⟩ := h.bind
          rw [eq_mapping_of_owned h.pure.symm] at hv
          exact absurd hv.lift ofScalar_ne_mapping
      | .sequence _ _ _, 0, h => exact h.throw.elim
      | .sequence tag items closed, depth + 1, h =>
          obtain ⟨vs, -, h⟩ := h.bind
          split at h
          · cases eq_mapping_of_owned h.pure.symm
          · exact h.throw.elim
      | .mapping _ _ _, 0, h => exact h.throw.elim
      | .mapping tag entries closed, depth + 1, h =>
          rw [valueWithin_mapping] at h
          obtain ⟨m', hm', h⟩ := h.bind
          split at h
          · obtain rfl := Value.mapping.inj (eq_mapping_of_owned h.pure.symm)
            exact nodup_of_distinct (m := []) List.nodup_nil hm'
          · exact h.throw.elim

/-- What is read that may be null is a value of a node. -/
theorem value_of_optional {depth : Nat} {n : Node} {v : Value}
    (h : Returns (optional d depth n) (some v)) : ∃ n', Returns (value d depth n') v := by
  obtain ⟨n', -, h⟩ := h.bind
  have hgiven : ∀ {n'}, Returns (do return some (← value d depth n') : Reading (Option Value))
      (some v) → ∃ n', Returns (value d depth n') v := by
    intro n' h
    obtain ⟨v', hv', h⟩ := h.bind
    exact ⟨n', Option.some.inj h.pure ▸ hv'⟩
  dsimp only at h
  split at h
  · split at h
    · split at h
      · cases h.pure
      · exact hgiven h
    · split at h
      · split at h
        · cases h.pure
        · exact h.throw.elim
      · exact hgiven h
  · exact hgiven h

/-! ### Records and values by name -/

/-- What holds after each entry of a record holds of the record. -/
theorem putFields_keeps {P : σ → Prop} {fields : List String}
    {step : String → Node → σ → Reading σ}
    (hstep : ∀ name n s s', P s → Returns (step name n s) s' → P s') {seen : List String}
    {entries : List (Node × Node)} {s s' : σ} (hs : P s)
    (h : Returns (putFields d fields step seen s entries) s') : P s' := by
  induction entries generalizing seen s with
  | nil => rwa [h.pure]
  | cons e entries ih =>
      obtain ⟨name, -, h⟩ := h.bind
      split at h
      · split at h
        · exact h.throw.elim
        · obtain ⟨s₁, hs₁, h⟩ := h.bind
          exact ih (hstep _ _ _ _ hs hs₁) h
      · split at h
        · exact ih hs h
        · exact h.throw.elim

theorem record_keeps {P : σ → Prop} {fields : List String} {step : String → Node → σ → Reading σ}
    (hstep : ∀ name n s s', P s → Returns (step name n s) s' → P s') {n : Node} {s s' : σ}
    (hs : P s) (h : Returns (record d fields step s n) s') : P s' := by
  obtain ⟨es, -, h⟩ := h.bind
  obtain ⟨s₁, hs₁, h⟩ := h.bind
  split at h
  · rw [h.pure]
    exact putFields_keeps hstep hs hs₁
  · exact h.throw.elim

/-- What is found under a name has been read. -/
theorem returns_of_byName {read : Node → Reading α} {n : Node} {values : Dict α}
    (h : Returns (byName d read n) values) {name : String} {x : α}
    (hx : values.find? name = some x) : ∃ n', Returns (read n') x := by
  obtain ⟨es, -, h⟩ := h.bind
  obtain ⟨pairs, hpairs, h⟩ := h.bind
  split at h
  · rw [h.pure, Dict.find?_ofList_last] at hx
    obtain ⟨pair, hlast, rfl⟩ := Option.map_eq_some_iff.1 hx
    have hpair : pair ∈ pairs := (List.mem_filter.1 (List.mem_of_getLast? hlast)).1
    obtain ⟨e, -, hread⟩ := hpairs.mapM pair hpair
    obtain ⟨name, -, hread⟩ := hread.bind
    obtain ⟨x, hx, hread⟩ := hread.bind
    rw [hread.pure]
    exact ⟨e.2, hx⟩
  · exact h.throw.elim

/-! ### Another root -/

section Root

variable (d) (root : Node)

theorem valueWithin_withRoot : valueWithin (d.withRoot root) = valueWithin d := by
  funext fuel
  induction fuel with
  | zero => rfl
  | succ fuel ih =>
      funext depth n
      cases n <;> simp only [valueWithin, ih]
      rfl

theorem optional_withRoot : optional (d.withRoot root) = optional d := by
  funext depth n
  unfold optional value
  rw [valueWithin_withRoot]
  rfl

theorem record_withRoot (fields : List String) (step : String → Node → σ → Reading σ) :
    record (d.withRoot root) fields step = record d fields step := by
  have hput : ∀ entries seen s, putFields (d.withRoot root) fields step seen s entries =
      putFields d fields step seen s entries := by
    intro entries
    induction entries with
    | nil => exact fun seen s => rfl
    | cons e entries ih =>
        intro seen s
        simp only [putFields, ih]
        rfl
  funext blank n
  unfold record
  simp only [hput]
  rfl

end Root

/-- What a text holds whose tree has a root. -/
theorem document?_withRoot {read : Tree → Node → Reading α} {cs : List Char} {root : Node}
    (h : Tree.read cs = d.withRoot root) :
    document? read cs = (do
      let (x, _) ← (read (d.withRoot root) root).run 0
      if d.isOnly then return x else throw brokenOff) := by
  unfold document?
  rw [h]
  rfl

/-- What a text holds is read of its root. -/
theorem returns_of_document {read : Tree → Node → Reading α} {cs : List Char} {x : α}
    (h : document? read cs = .ok x) : ∃ n, Returns (read (Tree.read cs) n) x := by
  obtain ⟨⟨y, k⟩, hrun, h⟩ := bind_eq_ok_iff.1 h
  dsimp only at h
  split at h
  · exact ⟨_, 0, k, Except.ok.inj h ▸ hrun⟩
  · cases h

end Reading

end Cutover.Yaml
