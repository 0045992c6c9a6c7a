/-
**One node in the place of another.**

What stands under one key of a mapping may be exchanged.  As long as what is read of the one node is
related to what is read of the other, so is what is read of the mappings around them: the entries in
front are read as before, and what the entries behind add does not depend on the difference.  This
holds for values, for values by name and for records, one around the other to any depth.

Main definitions:

* `Cutover.Yaml.Reading.Alike` — two steps can take each other's place;
* `Cutover.Yaml.Frame` — a mapping in which one value is left open;
* `Cutover.Yaml.Reading.Holding` — two values that hold related ones under one key.

Main results:

* `Cutover.Yaml.Reading.alike_value_fill` — the value of a mapping;
* `Cutover.Yaml.Reading.alike_byName_fill` — values by name;
* `Cutover.Yaml.Reading.alike_record_fill` — records.
-/
import Cutover.Proofs.Agreement
import Cutover.Proofs.Yaml.Reading
import Cutover.Proofs.Yaml.Record

set_option autoImplicit false

namespace Cutover.Yaml

open Document (Error)

/-- A mapping in which one value is left open. -/
structure Frame where
  tag : Option String
  before : List (Node × Node)
  /-- How the key of the open value is written. -/
  style : Style
  after : List (Node × Node)
  closed : Bool

namespace Frame

/-- The entries with a value under a key in the open place. -/
def entries (frame : Frame) (key : String) (n : Node) : List (Node × Node) :=
  frame.before ++ (.scalar none frame.style key, n) :: frame.after

/-- The mapping with a value under a key in the open place. -/
def fill (frame : Frame) (key : String) (n : Node) : Node :=
  .mapping frame.tag (frame.entries key n) frame.closed

theorem differAt_entries (frame : Frame) (key : String) {R : Node → Node → Prop} {n n' : Node}
    (h : R n n') :
    DifferAt (.scalar none frame.style key) R (frame.entries key n) (frame.entries key n') :=
  (DifferAt.here frame.after h).append_left frame.before

end Frame

namespace Reading

variable {α α' β β' : Type} {d : Tree}

/-- Two steps can take each other's place: they follow equally many aliases, and both fail or have
results that are related. -/
def Alike (R : α → β → Prop) (m : Reading α) (m' : Reading β) : Prop :=
  ∀ k, Agree (fun x y => R x.1 y.1 ∧ x.2 = y.2) (m.run k) (m'.run k)

namespace Alike

variable {R : α → β → Prop} {S : α' → β' → Prop}

theorem bind {m : Reading α} {m' : Reading β} {f : α → Reading α'} {g : β → Reading β'}
    (h : Alike R m m') (hnext : ∀ a b, R a b → Alike S (f a) (g b)) :
    Alike S (m >>= f) (m' >>= g) := by
  intro k
  rw [StateT.run_bind, StateT.run_bind]
  refine (h k).bind ?_
  rintro ⟨a, k₁⟩ ⟨b, _⟩ ⟨hab, rfl⟩
  exact hnext a b hab k₁

/-- Where the first part is the same, only what follows it has to be alike. -/
theorem bind_same {m : Reading β} {f : β → Reading α'} {g : β → Reading β'}
    (hnext : ∀ b, Returns m b → Alike S (f b) (g b)) : Alike S (m >>= f) (m >>= g) := by
  intro k
  rw [StateT.run_bind, StateT.run_bind]
  exact Agree.bind_same fun x hx => hnext x.1 ⟨k, x.2, hx⟩ x.2

theorem pure {a : α} {b : β} (h : R a b) : Alike R (Pure.pure a) (Pure.pure b) :=
  fun _ => .done ⟨h, rfl⟩

theorem throw (e e' : Error) : Alike R (MonadExcept.throw e) (MonadExcept.throw e') :=
  fun _ => .failed

end Alike

/-! ### The value of a mapping -/

/-- What the entries behind add does not depend on the difference. -/
theorem alike_distinct_after {read : Node → Reading Value} {key : Value}
    {R : Value → Value → Prop} {m m' : Mapping} (h : DifferAt key R m m')
    (entries : List (Node × Node)) :
    Alike (DifferAt key R) (distinct read m entries) (distinct read m' entries) := by
  induction entries generalizing m m' with
  | nil => exact .pure h
  | cons e entries ih =>
      refine .bind_same fun k _ => ?_
      have hany : m.any (fun e => e.1 = k) = m'.any (fun e => e.1 = k) := by
        have hmap := congrArg (List.any · fun l => l = k) h.keys_eq
        simpa only [List.any_map, Function.comp_def] using hmap
      rw [hany]
      split
      · exact .throw _ _
      · exact .bind_same fun v _ => ih (h.append_right _)

theorem alike_distinct {read : Node → Reading Value} {n : Node} {key : Value}
    (hkey : ∀ k, Returns (read n) k → k = key) {R : Value → Value → Prop}
    {entries entries' : List (Node × Node)}
    (h : DifferAt n (fun v v' => Alike R (read v) (read v')) entries entries') (m : Mapping) :
    Alike (DifferAt key R) (distinct read m entries) (distinct read m entries') := by
  induction h generalizing m with
  | here rest hv =>
      refine .bind_same fun k hk => ?_
      obtain rfl := hkey k hk
      split
      · exact .throw _ _
      · exact hv.bind fun x x' hx => alike_distinct_after (.append_left (.here [] hx) m) rest
  | there e _ ih =>
      refine .bind_same fun k _ => ?_
      split
      · exact .throw _ _
      · exact .bind_same fun v _ => ih _

/-- A text is a key as it is written. -/
theorem eq_string_of_key {key : String} (hkey : Scalar.ofPlain key = .text key) {style : Style}
    {fuel depth : Nat} {k : Value}
    (h : Returns (valueWithin d fuel depth (.scalar none style key)) k) : k = .string key := by
  have htext : Scalar.ofStyle style key = .text key := by
    rw [Scalar.ofStyle, hkey, ite_self]
  cases fuel with
  | zero => exact h.throw.elim
  | succ fuel =>
      rw [valueWithin_scalar] at h
      obtain ⟨x, hx, h⟩ := h.bind
      obtain ⟨v, hv, h⟩ := h.bind
      obtain rfl := Except.ok.inj hx.lift
      rw [htext] at hv
      obtain rfl := Except.ok.inj hv.lift
      exact h.pure

/-- Two values that hold related ones under one key and are the same otherwise. -/
def Holding (key : String) (R : Value → Value → Prop) (v v' : Value) : Prop :=
  ∃ tag m m', v = owned tag (.mapping m) ∧ v' = owned tag (.mapping m') ∧
    DifferAt (.string key) R m m'

/-- The value of a mapping. -/
theorem alike_value_fill {key : String} (hkey : Scalar.ofPlain key = .text key) (frame : Frame)
    {R : Value → Value → Prop} {n n' : Node}
    (h : ∀ fuel depth, Alike R (valueWithin d fuel depth n) (valueWithin d fuel depth n'))
    (fuel depth : Nat) :
    Alike (Holding key R) (valueWithin d fuel depth (frame.fill key n))
      (valueWithin d fuel depth (frame.fill key n')) := by
  match fuel, depth with
  | 0, _ => exact .throw _ _
  | _ + 1, 0 => exact .throw _ _
  | fuel + 1, depth + 1 =>
      rw [Frame.fill, valueWithin_mapping, Frame.fill, valueWithin_mapping]
      refine (alike_distinct (fun k hk => eq_string_of_key hkey hk)
        (frame.differAt_entries key (h fuel depth)) []).bind fun m m' hm => ?_
      split
      · exact .pure ⟨_, m, m', rfl, rfl, hm⟩
      · exact .throw _ _

/-- A mapping is not null. -/
theorem optional_fill (frame : Frame) (key : String) (depth : Nat) (n : Node) :
    optional d depth (frame.fill key n) = (do return some (← value d depth (frame.fill key n))) :=
  rfl

theorem alike_optional_fill {key : String} (hkey : Scalar.ofPlain key = .text key) (frame : Frame)
    {R : Value → Value → Prop} {n n' : Node}
    (h : ∀ fuel depth, Alike R (valueWithin d fuel depth n) (valueWithin d fuel depth n'))
    (depth : Nat) :
    Alike (fun b b' => ∃ v v', b = some v ∧ b' = some v' ∧ Holding key R v v')
      (optional d depth (frame.fill key n)) (optional d depth (frame.fill key n')) := by
  rw [optional_fill, optional_fill]
  exact (alike_value_fill hkey frame h _ depth).bind fun v v' hv => .pure ⟨v, v', rfl, rfl, hv⟩

/-! ### Values by name -/

/-- Values by name, where the value that is exchanged is the last one of its name. -/
theorem alike_byName_fill {read : Node → Reading α} (frame : Frame) {name : String}
    (hlast : ∀ e ∈ frame.after, ¬ Returns (text d e.1) name) {R : α → α → Prop} {n n' : Node}
    (h : Alike R (read n) (read n')) :
    Alike (Dict.DifferAt name R) (byName d read (frame.fill name n))
      (byName d read (frame.fill name n')) := by
  let pair (e : Node × Node) : Reading (String × α) := do
    let name ← text d e.1
    return (name, ← read e.2)
  have hbyName : ∀ n, byName d read (frame.fill name n) = (do
      let before ← frame.before.mapM pair
      let x ← read n
      let after ← frame.after.mapM pair
      if frame.closed then return Dict.ofList (before ++ (name, x) :: after)
      else throw brokenOff) := by
    intro n
    have hpair : pair (.scalar none frame.style name, n) = (do return (name, ← read n)) := rfl
    have hread : byName d read (frame.fill name n) = (do
        let pairs ← (frame.entries name n).mapM pair
        if frame.closed then return Dict.ofList pairs else throw brokenOff) := rfl
    rw [hread, Frame.entries, List.mapM_append]
    simp only [List.mapM_cons, hpair, bind_assoc, pure_bind]
  rw [hbyName, hbyName]
  refine .bind_same fun before _ => h.bind fun x x' hx => .bind_same fun after hafter => ?_
  split
  · refine .pure (Dict.differAt_ofList hx before fun e he heq => ?_)
    obtain ⟨e', he', hpair⟩ := hafter.mapM e he
    obtain ⟨name', hname', hpair⟩ := hpair.bind
    obtain ⟨y, -, hpair⟩ := hpair.bind
    rw [hpair.pure] at heq
    exact hlast e' he' (heq ▸ hname')
  · exact .throw _ _

/-! ### Records -/

section Record

variable {σ : Type} {fields seen : List String} {step : String → Node → σ → Reading σ}
  {name : String} {Q : σ → σ → Prop}

/-- The other fields of a record keep what is related related. -/
theorem alike_putFields_after
    (hother : ∀ other ∈ fields, other ≠ name → ∀ n s s', Q s s' →
      Alike Q (step other n s) (step other n s'))
    (hseen : name ∈ seen) {s s' : σ} (hs : Q s s') (entries : List (Node × Node)) :
    Alike Q (putFields d fields step seen s entries) (putFields d fields step seen s' entries) := by
  induction entries generalizing seen s s' with
  | nil => exact .pure hs
  | cons e entries ih =>
      refine .bind_same fun other _ => ?_
      split
      · split
        · exact .throw _ _
        · rename_i hfirst
          have hne : other ≠ name := by
            rintro rfl
            exact hfirst (List.contains_iff_mem.2 hseen)
          exact (hother other (List.contains_iff_mem.1 ‹_›) hne e.2 s s' hs).bind fun s₁ s₁' hs₁ =>
            ih (List.mem_cons_of_mem other hseen) hs₁
      · split
        · exact ih hseen hs
        · exact .throw _ _

theorem alike_putFields
    (hother : ∀ other ∈ fields, other ≠ name → ∀ n s s', Q s s' →
      Alike Q (step other n s) (step other n s'))
    (hfield : name ∈ fields) {style : Style} {entries entries' : List (Node × Node)}
    (h : DifferAt (.scalar none style name)
      (fun v v' => ∀ s, Alike Q (step name v s) (step name v' s)) entries entries') (s : σ) :
    Alike Q (putFields d fields step seen s entries) (putFields d fields step seen s entries') := by
  induction h generalizing seen s with
  | here rest hv =>
      refine .bind_same fun other hread => ?_
      obtain rfl : other = name := hread.pure
      rw [if_pos (List.contains_iff_mem.2 hfield), if_pos (List.contains_iff_mem.2 hfield)]
      split
      · exact .throw _ _
      · exact (hv s).bind fun s₁ s₁' hs₁ =>
          alike_putFields_after hother List.mem_cons_self hs₁ rest
  | there e _ ih =>
      refine .bind_same fun other _ => ?_
      split
      · split
        · exact .throw _ _
        · exact .bind_same fun s₁ _ => ih s₁
      · split
        · exact ih s
        · exact .throw _ _

/-- A record, of which one field is exchanged. -/
theorem alike_record_fill (frame : Frame)
    (hother : ∀ other ∈ fields, other ≠ name → ∀ n s s', Q s s' →
      Alike Q (step other n s) (step other n s'))
    (hfield : name ∈ fields) {n n' : Node} (h : ∀ s, Alike Q (step name n s) (step name n' s))
    (blank : σ) :
    Alike Q (record d fields step blank (frame.fill name n))
      (record d fields step blank (frame.fill name n')) := by
  have hread : ∀ n, record d fields step blank (frame.fill name n) = (do
      let s ← putFields d fields step [] blank (frame.entries name n)
      if frame.closed then return s else throw brokenOff) := fun _ => rfl
  rw [hread, hread]
  refine (alike_putFields hother hfield (frame.differAt_entries name h) blank).bind
    fun s s' hs => ?_
  split
  · exact .pure hs
  · exact .throw _ _

end Record

/-! ### What is read of values that hold related ones -/

section Holding

variable {σ : Type} {fields : List String} {step : String → Value → σ → Except Error σ}
  {key : String} {Q : σ → σ → Prop} {R : Value → Value → Prop} {v v' : Value}

/-- A record, read of values that hold related ones in one field. -/
theorem Holding.agree_fold (h : Holding key R v v')
    (hother : ∀ other ∈ fields, other ≠ key → ∀ v s s', Q s s' →
      Agree Q (step other v s) (step other v s'))
    (hfield : key ∈ fields)
    (hstep : ∀ x x', R x x' → ∀ s, Agree Q (step key x s) (step key x' s)) (blank : σ) :
    Agree Q (Record.fold fields step blank v) (Record.fold fields step blank v') := by
  obtain ⟨tag, m, m', rfl, rfl, hm⟩ := h
  have hfold : ∀ m, Record.fold fields step blank (owned tag (.mapping m)) =
      Record.foldEntries fields step [] blank m := by
    intro m
    unfold owned
    split <;> rfl
  rw [hfold, hfold]
  exact Record.agree_foldEntries hother hfield (hm.mono hstep) blank

/-- A value that holds something is not null. -/
theorem Holding.agree_optional (h : Holding key R v v') {read : Value → Except Error α}
    {S : α → α → Prop} (hread : Agree S (read v) (read v')) :
    Agree (fun x x' => ∃ a a', x = some a ∧ x' = some a' ∧ S a a')
      (Record.optional read v) (Record.optional read v') := by
  obtain ⟨tag, m, m', rfl, rfl, hm⟩ := h
  have hoptional : ∀ m, Record.optional read (owned tag (.mapping m)) =
      (do return some (← read (owned tag (.mapping m)))) := by
    intro m
    unfold owned
    split <;> rfl
  rw [hoptional, hoptional]
  exact hread.bind fun a a' ha => .done ⟨a, a', rfl, rfl, ha⟩

end Holding

end Reading

end Cutover.Yaml
