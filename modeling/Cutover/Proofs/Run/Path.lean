/-
**Where a run goes.**

A run does nothing to the world but ask its host, report a line, or wait.  This module follows a
run through the worlds that it reaches and collects the entries that it adds to the journal, so
that what is true after every such step is true after every run.

Main definitions:

* `Cutover.World.after` — the world after one request; `Cutover.World.since` — the entries that
  are new in a world;
* `Cutover.Path` — the worlds that can be reached by requests, reports and waits;
* `Cutover.Prompt` — the world behind requests that are made without a wait, and `Cutover.Spans`
  when such requests are made;
* `Cutover.Outcome.value?`, `Cutover.Outcome.failure?` — what a run has ended with;
* `Cutover.Run.Within` — a run that keeps to some entries, and to some failures of its own;
* `Cutover.Run.Plain` — a run that besides catches no failure.

Main results:

* `Cutover.Path.since_eq` — the entries of a path are the new entries of the journal;
* `Cutover.Path.clock_le`, `Cutover.Path.asked_in` — time does not run backwards, and every answer
  is that of the host in the world in which it was asked;
* `Cutover.Run.Within.bind` and its companions — how runs that keep to some entries are composed;
* `Cutover.Run.Plain.halts` — a plain run ends with the first request that fails.
-/
import Cutover.Cloud.Listing

set_option autoImplicit false

namespace Cutover

variable {σ α β : Type}

/-- A list with one more member at its end, split elsewhere: at its end, or in front of it. -/
theorem split_last {l l₁ l₂ : List α} {x y : α} (hl : l ++ [y] = l₁ ++ x :: l₂) :
    (l = l₁ ∧ y = x ∧ l₂ = []) ∨ ∃ back, l = l₁ ++ x :: back ∧ l₂ = back ++ [y] := by
  rcases List.eq_nil_or_concat l₂ with rfl | ⟨back, z, rfl⟩
  · obtain ⟨rfl, hlast⟩ := List.append_inj' hl rfl
    exact .inl ⟨rfl, List.head_eq_of_cons_eq hlast, rfl⟩
  · rw [List.concat_eq_append, ← List.cons_append, ← List.append_assoc] at hl
    obtain ⟨rfl, hlast⟩ := List.append_inj' hl rfl
    obtain rfl := List.head_eq_of_cons_eq hlast
    exact .inr ⟨back, rfl, List.concat_eq_append⟩

/-! ### Paths -/

/-- The world after a request. -/
def World.after (w : World σ) (h : Host σ) (r : Request) : World σ :=
  Run.note ⟨(h.answer r w.state).state, w.clock + (h.answer r w.state).elapsed, w.journal⟩
    (.call r (h.answer r w.state).result)

/-- The entries that are in the journal of a world and were not in the journal of an earlier
one. -/
def World.since (w' w : World σ) : List Entry := w'.journal.toList.drop w.journal.size

/-- The worlds that can be reached from a world, each with the entries that are added on the
way. -/
inductive Path (h : Host σ) (w : World σ) : List Entry → World σ → Prop
  | refl : Path h w [] w
  | call {t : List Entry} {w' : World σ} (r : Request) : Path h w t w' →
      Path h w (t ++ [.call r (h.answer r w'.state).result]) (w'.after h r)
  | report {t : List Entry} {w' : World σ} (line : ReportLine) : Path h w t w' →
      Path h w (t ++ [.report line]) (Run.note w' (.report line))
  | sleep {t : List Entry} {w' : World σ} (ms : Nat) : Path h w t w' →
      Path h w t { w' with clock := w'.clock + ms }

namespace Path

variable {h : Host σ} {w w₁ w₂ w' : World σ} {t t₁ t₂ : List Entry}

theorem trans (p₁ : Path h w t₁ w₁) (p₂ : Path h w₁ t₂ w₂) : Path h w (t₁ ++ t₂) w₂ := by
  induction p₂ with
  | refl => rwa [List.append_nil]
  | call r _ ih => rw [← List.append_assoc]; exact ih.call r
  | report line _ ih => rw [← List.append_assoc]; exact ih.report line
  | sleep ms _ ih => exact ih.sleep ms

/-- A path of one request. -/
theorem single (h : Host σ) (w : World σ) (r : Request) :
    Path h w [.call r (h.answer r w.state).result] (w.after h r) :=
  Path.refl.call r

/-- A path of one reported line. -/
theorem line (h : Host σ) (w : World σ) (line : ReportLine) :
    Path h w [.report line] (Run.note w (.report line)) :=
  Path.refl.report line

theorem journal_eq (p : Path h w t w') : w'.journal.toList = w.journal.toList ++ t := by
  induction p with
  | refl => simp
  | call r _ ih => simp [World.after, Run.note, ih]
  | report line _ ih => simp [Run.note, ih]
  | sleep ms _ ih => exact ih

/-- The entries of a path are those that are new in the journal. -/
theorem since_eq (p : Path h w t w') : w'.since w = t := by
  rw [World.since, p.journal_eq, ← Array.length_toList, List.drop_left]

/-- Time does not run backwards. -/
theorem clock_le (p : Path h w t w') : w.clock ≤ w'.clock := by
  induction p with
  | refl => exact Nat.le_refl _
  | call r _ ih => exact Nat.le_trans ih (Nat.le_add_right _ _)
  | report line _ ih => exact ih
  | sleep ms _ ih => exact Nat.le_trans ih (Nat.le_add_right _ _)

/-- What was asked on a path was answered by the host in the world that it had reached by then. -/
theorem asked_in (p : Path h w t w') {r : Request} {x : Except Failure r.Reply}
    (ht : t = t₁ ++ .call r x :: t₂) :
    ∃ v, Path h w t₁ v ∧ (h.answer r v.state).result = x := by
  induction p generalizing t₂ with
  | refl => simp at ht
  | @call t w' r' hpath ih =>
      rcases split_last ht with ⟨rfl, hlast, -⟩ | ⟨back, hfront, -⟩
      · obtain ⟨rfl, hresult⟩ := Entry.call.inj hlast
        exact ⟨w', hpath, eq_of_heq hresult⟩
      · exact ih hfront
  | report line _ ih =>
      rcases split_last ht with ⟨-, hlast, -⟩ | ⟨back, hfront, -⟩
      · cases hlast
      · exact ih hfront
  | sleep ms _ ih => exact ih ht

/-- What was asked on a path was answered by the host in one of its states. -/
theorem answered (p : Path h w t w') {r : Request} {x : Except Failure r.Reply}
    (hx : Entry.call r x ∈ t) : ∃ s, (h.answer r s).result = x := by
  obtain ⟨t₁, t₂, ht⟩ := List.append_of_mem hx
  obtain ⟨v, -, hv⟩ := p.asked_in ht
  exact ⟨v.state, hv⟩

end Path

/-! ### Requests without a wait -/

/-- The world behind requests that follow each other without a wait: no time passes but that in
which the host answers. -/
inductive Prompt (h : Host σ) (w : World σ) : List Entry → World σ → Prop
  | refl : Prompt h w [] w
  | call {t : List Entry} {w' : World σ} (r : Request) : Prompt h w t w' →
      Prompt h w (t ++ [.call r (h.answer r w'.state).result]) (w'.after h r)

namespace Prompt

variable {h : Host σ} {w w₁ w₂ w' : World σ} {t t₁ t₂ : List Entry}

theorem single (h : Host σ) (w : World σ) (r : Request) :
    Prompt h w [.call r (h.answer r w.state).result] (w.after h r) :=
  Prompt.refl.call r

theorem trans (p₁ : Prompt h w t₁ w₁) (p₂ : Prompt h w₁ t₂ w₂) : Prompt h w (t₁ ++ t₂) w₂ := by
  induction p₂ with
  | refl => rwa [List.append_nil]
  | call r _ ih => rw [← List.append_assoc]; exact ih.call r

theorem path (p : Prompt h w t w') : Path h w t w' := by
  induction p with
  | refl => exact .refl
  | call r _ ih => exact ih.call r

end Prompt

/-- When requests are made: they begin behind other entries at some time, are made without a wait,
and end when the last of them is answered. -/
def Spans (h : Host σ) (w : World σ) (front t : List Entry) (begun ended : Nat) : Prop :=
  ∃ u u', Path h w front u ∧ u.clock = begun ∧ Prompt h u t u' ∧ u'.clock = ended

/-! ### Runs -/

/-- The value that a run has returned. -/
def Outcome.value? : Outcome α → Option α
  | .ok x => some x
  | _ => none

/-- The failure that a run has ended with. -/
def Outcome.failure? : Outcome α → Option Failure
  | .failed e => some e
  | _ => none

/-- What a run ends with, after a function. -/
def Outcome.map (f : α → β) : Outcome α → Outcome β
  | .ok x => .ok (f x)
  | .failed e => .failed e
  | .unfinished => .unfinished

@[simp] theorem Outcome.map_id (o : Outcome α) : o.map (fun x => x) = o := by
  cases o <;> rfl

/-- What a run ends with that hands an answer on. -/
def Outcome.ofAnswer : Except Failure α → Outcome α
  | .ok x => .ok x
  | .error e => .failed e

theorem Outcome.ofAnswer_map (f : α → β) (x : Except Failure α) :
    Outcome.ofAnswer (x.map f) = (Outcome.ofAnswer x).map f := by
  cases x <;> rfl

theorem Outcome.eq_ok {r : Outcome α × World σ} {x : α} (hr : r.1.value? = some x) :
    r = (.ok x, r.2) := by
  obtain ⟨_ | _ | _, w⟩ := r <;> cases hr
  rfl

theorem Outcome.eq_failed {r : Outcome α × World σ} {e : Failure}
    (hr : r.1.failure? = some e) : r = (.failed e, r.2) := by
  obtain ⟨_ | _ | _, w⟩ := r <;> cases hr
  rfl

namespace Run

variable {h : Host σ} {w w₁ w' : World σ} {t t₁ t₂ : List Entry} {x : α} {e : Failure}
  {m : Run σ α} {f : α → Run σ β}

theorem bind_ok (hm : m h w = (.ok x, w₁)) : (m >>= f) h w = f x h w₁ := by
  show Run.bind m f h w = f x h w₁
  rw [Run.bind, hm]

theorem bind_failed (hm : m h w = (.failed e, w₁)) : (m >>= f) h w = (.failed e, w₁) := by
  show Run.bind m f h w = (.failed e, w₁)
  rw [Run.bind, hm]

theorem bind_unfinished (hm : m h w = (.unfinished, w₁)) :
    (m >>= f) h w = (.unfinished, w₁) := by
  show Run.bind m f h w = (.unfinished, w₁)
  rw [Run.bind, hm]

/-- A run after which a function is applied ends as it does, after the function. -/
theorem bind_pure_eq {o : Outcome α} (hm : m h w = (o, w')) (g : α → β) :
    (m >>= fun x => Pure.pure (g x)) h w = (o.map g, w') := by
  rcases o with x | e | _
  · exact bind_ok hm
  · exact bind_failed hm
  · exact bind_unfinished hm

/-- How compositions are bracketed does not matter. -/
instance : LawfulMonad (Run σ) := by
  refine .mk' (Run σ) (fun m => ?_) (fun x f => rfl) (fun m f g => ?_)
  · funext h w
    show (m >>= fun x => Pure.pure x) h w = m h w
    rcases hx : m h w with ⟨x | e | _, w₁⟩
    · exact bind_ok hx
    · exact bind_failed hx
    · exact bind_unfinished hx
  · funext h w
    show Run.bind (Run.bind m f) g h w = Run.bind m (fun x => Run.bind (f x) g) h w
    rcases hx : m h w with ⟨x | e | _, w₁⟩ <;> simp only [Run.bind, hx]

/-- A composition that returns a value has returned one from its first part. -/
theorem bind_eq_ok {y : β} (hm : (m >>= f) h w = (.ok y, w')) :
    ∃ x w₁, m h w = (.ok x, w₁) ∧ f x h w₁ = (.ok y, w') := by
  rcases hx : m h w with ⟨_ | _ | _, w₁⟩
  · rw [bind_ok hx] at hm
    exact ⟨_, _, rfl, hm⟩
  · rw [bind_failed hx] at hm
    cases hm
  · rw [bind_unfinished hx] at hm
    cases hm

/-- A composition that fails does so in its first part or, after a value of that, in what
follows. -/
theorem bind_eq_failed (hm : (m >>= f) h w = (.failed e, w')) :
    m h w = (.failed e, w') ∨ ∃ x w₁, m h w = (.ok x, w₁) ∧ f x h w₁ = (.failed e, w') := by
  rcases hx : m h w with ⟨_ | _ | _, w₁⟩
  · rw [bind_ok hx] at hm
    exact .inr ⟨_, _, rfl, hm⟩
  · rw [bind_failed hx] at hm
    cases hm
    exact .inl rfl
  · rw [bind_unfinished hx] at hm
    cases hm

/-- A result that is handed on was a value, and nothing has happened. -/
theorem ofExcept_eq_ok {y : Except Failure α} (hy : ofExcept y h w = (.ok x, w')) :
    y = .ok x ∧ w = w' := by
  cases y with
  | ok y => cases hy; exact ⟨rfl, rfl⟩
  | error e => cases hy

theorem call_ok {r : Request} {x : r.Reply} (hx : (h.answer r w.state).result = .ok x) :
    call r h w = (.ok x, w.after h r) := by
  simp only [call, World.after, hx]

theorem call_error {r : Request} (hx : (h.answer r w.state).result = .error e) :
    call r h w = (.failed e, w.after h r) := by
  simp only [call, World.after, hx]

/-- A request ends with its answer, in the world after it. -/
theorem call_answered (r : Request) (h : Host σ) (w : World σ) :
    call r h w = (.ofAnswer (h.answer r w.state).result, w.after h r) := by
  rcases hx : (h.answer r w.state).result with e | x
  · exact call_error hx
  · exact call_ok hx

/-- Whatever the answer, a request leads to the world after it. -/
theorem call_world (r : Request) (h : Host σ) (w : World σ) : (call r h w).2 = w.after h r := by
  rw [call_answered]

/-- A request that returns a value is all that has happened. -/
theorem path_of_call {r : Request} {x : r.Reply} (hx : call r h w = (.ok x, w')) :
    Path h w [.call r (.ok x)] w' := by
  have hpath := Path.single h w r
  rcases hresult : (h.answer r w.state).result with e | y
  · rw [call_error hresult] at hx
    cases hx
  · rw [call_ok hresult] at hx
    cases hx
    rwa [hresult] at hpath

/-- A request that fails is all that has happened. -/
theorem path_of_call_failed {r : Request} (hx : call r h w = (.failed e, w')) :
    Path h w [.call r (.error e)] w' := by
  have hpath := Path.single h w r
  rcases hresult : (h.answer r w.state).result with e' | y
  · rw [call_error hresult] at hx
    cases hx
    rwa [hresult] at hpath
  · rw [call_ok hresult] at hx
    cases hx

theorem attempt_ok (hm : m h w = (.ok x, w₁)) : attempt m h w = (.ok (.ok x), w₁) := by
  rw [attempt, hm]

theorem attempt_failed (hm : m h w = (.failed e, w₁)) :
    attempt m h w = (.ok (.error e), w₁) := by
  rw [attempt, hm]

/-- Reporting lines always succeeds, and its path consists of these lines. -/
theorem reportAll_path (lines : List ReportLine) (h : Host σ) (w : World σ) :
    ∃ w', reportAll lines h w = (.ok (), w') ∧ w'.state = w.state ∧
      Path h w (lines.map .report) w' := by
  induction lines generalizing w with
  | nil => exact ⟨w, rfl, rfl, .refl⟩
  | cons line rest ih =>
      obtain ⟨w', hrun, hstate, hpath⟩ := ih (note w (.report line))
      exact ⟨w', hrun, hstate, (Path.line h w line).trans hpath⟩

/-! ### Runs that keep to some entries -/

/-- A run that adds only entries of one kind and fails either in one of its own ways or with the
failure of a request. -/
def Within (P : Entry → Prop) (F : Failure → Prop) (m : Run σ α) : Prop :=
  ∀ h w, ∃ t, Path h w t (m h w).2 ∧ (∀ x ∈ t, P x) ∧
    ∀ e, (m h w).1 = .failed e → F e ∨ ∃ r, Entry.call r (.error e) ∈ t

variable {P : Entry → Prop} {F : Failure → Prop}

namespace Within

theorem pure (x : α) : Within P F (Pure.pure x : Run σ α) := fun _ _ =>
  ⟨[], .refl, by simp, fun _ he => by cases he⟩

theorem fail (he : F e) : Within P F (Run.fail e : Run σ α) := fun _ _ =>
  ⟨[], .refl, by simp, fun _ h => by cases h; exact .inl he⟩

theorem unfinished : Within P F (Run.unfinished : Run σ α) := fun _ _ =>
  ⟨[], .refl, by simp, fun _ he => by cases he⟩

theorem rounds : Within P F (Run.rounds : Run σ Nat) := fun _ _ =>
  ⟨[], .refl, by simp, fun _ he => by cases he⟩

theorem bind {m : Run σ α} {f : α → Run σ β} (hm : Within P F m)
    (hf : ∀ x, Within P F (f x)) : Within P F (m >>= f) := by
  intro h w
  obtain ⟨t, hpath, ht, hfail⟩ := hm h w
  rcases hx : m h w with ⟨x | e | _, w₁⟩
  · rw [hx] at hpath
    obtain ⟨t', hpath', ht', hfail'⟩ := hf x h w₁
    rw [bind_ok hx]
    refine ⟨t ++ t', hpath.trans hpath', fun y hy => ?_, fun e he => ?_⟩
    · exact (List.mem_append.1 hy).elim (ht y) (ht' y)
    · exact (hfail' e he).imp id fun ⟨r, hr⟩ => ⟨r, List.mem_append_right t hr⟩
  · rw [hx] at hpath hfail
    rw [Run.bind_failed hx]
    exact ⟨t, hpath, ht, fun e' he' => hfail e' (by cases he'; rfl)⟩
  · rw [hx] at hpath
    rw [bind_unfinished hx]
    exact ⟨t, hpath, ht, fun _ he => by cases he⟩

/-- Where a composition fails whose first part keeps to some entries. -/
theorem bind_failed {m : Run σ α} {f : α → Run σ β} (hm : Within P F m)
    (hrun : (m >>= f) h w = (.failed e, w')) :
    (∃ t, Path h w t w' ∧ (∀ x ∈ t, P x) ∧ (F e ∨ ∃ r, Entry.call r (.error e) ∈ t)) ∨
      ∃ x t w₁, Path h w t w₁ ∧ (∀ y ∈ t, P y) ∧ f x h w₁ = (.failed e, w') := by
  obtain ⟨t, hpath, ht, hfail⟩ := hm h w
  rcases bind_eq_failed hrun with hx | ⟨x, w₁, hx, hrun⟩ <;> rw [hx] at hpath hfail
  · exact .inl ⟨t, hpath, ht, hfail e rfl⟩
  · exact .inr ⟨x, t, w₁, hpath, ht, hrun⟩

theorem call {r : Request} (hr : ∀ x, P (.call r x)) :
    Within P F (Run.call r : Run σ r.Reply) := by
  intro h w
  refine ⟨[.call r (h.answer r w.state).result], ?_, by simpa using hr _, fun e he => ?_⟩
  · rw [call_world]
    exact .single h w r
  · rcases hx : (h.answer r w.state).result with e' | x
    · rw [call_error hx] at he
      cases he
      exact .inr ⟨r, List.mem_singleton.2 rfl⟩
    · rw [call_ok hx] at he
      cases he

theorem reportLine {line : ReportLine} (hl : P (.report line)) :
    Within P F (Run.reportLine line : Run σ Unit) := fun h w =>
  ⟨[.report line], .line h w line, by simpa using hl, fun _ he => by cases he⟩

end Within

/-! ### Plain runs -/

/-- A run that is put together from requests, reports and failures of its own and that catches no
failure.  What it adds to the journal is of one kind, and its own failures come in some ways. -/
inductive Plain (P : Entry → Prop) (F : Failure → Prop) : {α : Type} → Run σ α → Prop
  | pure {α : Type} (x : α) : Plain P F (Pure.pure x : Run σ α)
  | fail {α : Type} {e : Failure} : F e → Plain P F (Run.fail e : Run σ α)
  | unfinished {α : Type} : Plain P F (Run.unfinished : Run σ α)
  | rounds : Plain P F Run.rounds
  | call {r : Request} : (∀ x, P (.call r x)) → Plain P F (Run.call r)
  | reportLine {line : ReportLine} : P (.report line) → Plain P F (Run.reportLine line)
  | bind {α β : Type} {m : Run σ α} {f : α → Run σ β} : Plain P F m →
      (∀ x, Plain P F (f x)) → Plain P F (m >>= f)

namespace Plain

/-- A plain run keeps to its entries and its failures. -/
theorem within {m : Run σ α} (hm : Plain P F m) : Within P F m := by
  induction hm with
  | pure x => exact .pure x
  | fail he => exact .fail he
  | unfinished => exact .unfinished
  | rounds => exact .rounds
  | call hr => exact .call hr
  | reportLine hl => exact .reportLine hl
  | bind _ _ ihm ihf => exact ihm.bind ihf

/-- A plain run ends with the first request that fails. -/
theorem halts {m : Run σ α} (hm : Plain P F m) (h : Host σ) (w : World σ) :
    ∃ t, Path h w t (m h w).2 ∧
      ∀ r e, Entry.call r (.error e) ∈ t → (m h w).1 = .failed e := by
  induction hm generalizing w with
  | pure _ | fail _ | unfinished | rounds => exact ⟨[], .refl, by simp⟩
  | reportLine _ => exact ⟨_, .line h w _, by simp⟩
  | @call r _ =>
      refine ⟨[.call r (h.answer r w.state).result], ?_, fun r' e he => ?_⟩
      · rw [call_world]
        exact .single h w r
      · obtain ⟨rfl, hx⟩ := Entry.call.inj (List.mem_singleton.1 he)
        rw [call_error (eq_of_heq hx).symm]
  | @bind _ _ m f _ _ ihm ihf =>
      obtain ⟨t, hpath, hhalts⟩ := ihm w
      rcases hx : m h w with ⟨x | e | _, w₁⟩ <;> rw [hx] at hpath hhalts
      · -- the first part has returned a value, so none of its requests has failed
        obtain ⟨t', hpath', hhalts'⟩ := ihf x w₁
        rw [bind_ok hx]
        refine ⟨t ++ t', hpath.trans hpath', fun r e he => ?_⟩
        rcases List.mem_append.1 he with he | he
        · cases hhalts r e he
        · exact hhalts' r e he
      · rw [bind_failed hx]
        exact ⟨t, hpath, fun r e' he => by cases hhalts r e' he; rfl⟩
      · rw [bind_unfinished hx]
        exact ⟨t, hpath, fun r e he => by cases hhalts r e he⟩

theorem ofExcept {x : Except Failure α} (hx : ∀ e, x = .error e → F e) :
    Plain P F (Run.ofExcept x : Run σ α) := by
  cases x with
  | ok x => exact pure x
  | error e => exact fail (hx e rfl)

theorem reportAll {lines : List ReportLine} (hl : ∀ line ∈ lines, P (.report line)) :
    Plain P F (Run.reportAll lines : Run σ Unit) := by
  induction lines with
  | nil => exact pure ()
  | cons line rest ih =>
      exact (reportLine (hl line (by simp))).bind fun _ => ih fun l h => hl l (by simp [h])

theorem listFrom {fetch : Option String → Run σ (Page α)} (hf : ∀ m, Plain P F (fetch m))
    (fuel : Nat) (marker : Option String) : Plain P F (Run.listFrom fetch fuel marker) := by
  induction fuel generalizing marker with
  | zero => exact unfinished
  | succ fuel ih =>
      refine (hf marker).bind fun page => ?_
      cases page.next with
      | none => exact pure _
      | some next => exact (ih (some next)).bind fun rest => pure _

theorem listAll {fetch : Option String → Run σ (Page α)} (hf : ∀ m, Plain P F (fetch m)) :
    Plain P F (Run.listAll fetch) :=
  rounds.bind fun fuel => listFrom hf fuel none

end Plain

end Run

end Cutover
