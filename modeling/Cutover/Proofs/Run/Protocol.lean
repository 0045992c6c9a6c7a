/-
**Runs that follow a protocol.**

A protocol says what may be asked next, depending on what was asked and answered so far.  It is
given by stages and by the entries that lead from one stage to another; an entry that leads nowhere
is not permitted.  A run follows a protocol if, whatever its host answers, its entries lead from
stage to stage.

Main definitions:

* `Cutover.Walk` — entries that lead from one stage to another;
* `Cutover.Run.Obeys` — a run that follows a protocol from a stage on.

Main results:

* `Cutover.Run.Obeys.bind` and its companions — how runs that follow a protocol are composed;
* `Cutover.Run.Within.obeys` — a run whose entries all leave a stage as it is stays at it;
* `Cutover.Run.Obeys.poll` — a poll whose attempts come back to a stage follows the protocol.
-/
import Cutover.Proofs.Run.Poll

set_option autoImplicit false

namespace Cutover

variable {σ α β τ S : Type} {Step : S → Entry → S → Prop} {s s₁ s₂ s' : S} {t t₁ t₂ : List Entry}

/-- The entries of a protocol that lead from one stage to another. -/
inductive Walk (Step : S → Entry → S → Prop) (s : S) : List Entry → S → Prop
  | refl : Walk Step s [] s
  | step {t : List Entry} {s₁ s₂ : S} {x : Entry} : Walk Step s t s₁ → Step s₁ x s₂ →
      Walk Step s (t ++ [x]) s₂

namespace Walk

theorem single {x : Entry} (hx : Step s x s₁) : Walk Step s [x] s₁ :=
  Walk.refl.step hx

theorem trans (a : Walk Step s t₁ s₁) (b : Walk Step s₁ t₂ s₂) : Walk Step s (t₁ ++ t₂) s₂ := by
  induction b with
  | refl => rwa [List.append_nil]
  | step _ hx ih => rw [← List.append_assoc]; exact ih.step hx

/-- Entries that leave a stage as it is lead nowhere else. -/
theorem stay (ht : ∀ x ∈ t, Step s x s) : Walk Step s t s := by
  induction t with
  | nil => exact .refl
  | cons x rest ih =>
      have hfirst : Walk Step s [x] s := .single (ht x List.mem_cons_self)
      have hrest : Walk Step s rest s := ih fun y hy => ht y (List.mem_cons_of_mem x hy)
      exact hfirst.trans hrest

end Walk

namespace Run

/-- From a stage on, whatever the host answers, the entries of a run lead from stage to stage; a
value that the run returns and the stage to which it has come then satisfy `Q`. -/
def Obeys (Step : S → Entry → S → Prop) (s : S) (m : Run σ α) (Q : α → S → Prop) : Prop :=
  ∀ h w, ∃ t s', Path h w t (m h w).2 ∧ Walk Step s t s' ∧ ∀ x, (m h w).1 = .ok x → Q x s'

/-- A run that adds entries of one kind only stays at a stage that these leave as it is. -/
theorem Within.obeys {P : Entry → Prop} {F : Failure → Prop} {m : Run σ α} (hm : Within P F m)
    (hP : ∀ x, P x → Step s x s) : Obeys Step s m (fun _ s' => s' = s) := by
  intro h w
  obtain ⟨t, hpath, ht, -⟩ := hm h w
  exact ⟨t, s, hpath, .stay fun x hx => hP x (ht x hx), fun _ _ => rfl⟩

namespace Obeys

variable {Q Q' : α → S → Prop} {R : β → S → Prop}

theorem mono {m : Run σ α} (hm : Obeys Step s m Q) (hQ : ∀ x s', Q x s' → Q' x s') :
    Obeys Step s m Q' := by
  intro h w
  obtain ⟨t, s', hpath, hwalk, hvalue⟩ := hm h w
  exact ⟨t, s', hpath, hwalk, fun x hx => hQ x s' (hvalue x hx)⟩

theorem pure {x : α} (hx : Q x s) : Obeys Step s (Pure.pure x : Run σ α) Q := by
  intro h w
  refine ⟨[], s, .refl, .refl, fun y hy => ?_⟩
  cases hy
  exact hx

theorem fail (e : Failure) : Obeys Step s (Run.fail e : Run σ α) Q := by
  intro h w
  exact ⟨[], s, .refl, .refl, fun y hy => by cases hy⟩

theorem unfinished : Obeys Step s (Run.unfinished : Run σ α) Q := by
  intro h w
  exact ⟨[], s, .refl, .refl, fun y hy => by cases hy⟩

theorem bind {m : Run σ α} {f : α → Run σ β} (hm : Obeys Step s m Q)
    (hf : ∀ x s₁, Q x s₁ → Obeys Step s₁ (f x) R) : Obeys Step s (m >>= f) R := by
  intro h w
  obtain ⟨t, s₁, hpath, hwalk, hvalue⟩ := hm h w
  rcases hx : m h w with ⟨x | e | _, w₁⟩ <;> rw [hx] at hpath hvalue
  · obtain ⟨t', s', hpath', hwalk', hvalue'⟩ := hf x s₁ (hvalue x rfl) h w₁
    rw [bind_ok hx]
    exact ⟨t ++ t', s', hpath.trans hpath', hwalk.trans hwalk', hvalue'⟩
  · rw [bind_failed hx]
    exact ⟨t, s₁, hpath, hwalk, fun y hy => by cases hy⟩
  · rw [bind_unfinished hx]
    exact ⟨t, s₁, hpath, hwalk, fun y hy => by cases hy⟩

/-- A request whose every answer leads to a stage. -/
theorem call {r : Request} {Q : r.Reply → S → Prop}
    (hok : ∀ x, ∃ s', Step s (.call r (.ok x)) s' ∧ Q x s')
    (herror : ∀ e, ∃ s', Step s (.call r (.error e)) s') :
    Obeys Step s (Run.call r : Run σ r.Reply) Q := by
  intro h w
  have hpath := Path.single h w r
  rcases hanswer : (h.answer r w.state).result with e | x <;> rw [hanswer] at hpath
  · obtain ⟨s', hstep⟩ := herror e
    rw [call_error hanswer]
    exact ⟨_, s', hpath, .single hstep, fun y hy => by cases hy⟩
  · obtain ⟨s', hstep, hQ⟩ := hok x
    rw [call_ok hanswer]
    refine ⟨_, s', hpath, .single hstep, fun y hy => ?_⟩
    cases hy
    exact hQ

/-- A poll whose attempts come back to the stage from which they started, unless they are done. -/
theorem pollUntil {probe : τ → Run σ (Attempt α τ)}
    (hprobe : ∀ state, Obeys Step s (probe state) fun a s' =>
      (∀ x, a = .done x → Q x s') ∧ ∀ next, a = .again next → s' = s)
    (interval start deadline fuel : Nat) (state : τ) :
    Obeys Step s (Run.pollUntil interval start deadline probe fuel state) fun p s' =>
      ∀ x, p = .done x → Q x s' := by
  intro h
  induction fuel generalizing state with
  | zero =>
      intro w
      simp only [Run.pollUntil]
      split <;> exact ⟨[], s, .refl, .refl, by simp⟩
  | succ fuel ih =>
      intro w
      simp only [Run.pollUntil]
      split
      · obtain ⟨t, s₁, hpath, hwalk, hvalue⟩ := hprobe state h w
        rcases hx : probe state h w with ⟨(x | next) | e | _, w₁⟩ <;> rw [hx] at hpath hvalue
        · have hdone := (hvalue _ rfl).1 x rfl
          exact ⟨t, s₁, hpath, hwalk, by simpa using hdone⟩
        · obtain rfl := (hvalue _ rfl).2 next rfl
          obtain ⟨t', s', hpath', hwalk', hvalue'⟩ := ih next (waited w₁ interval)
          exact ⟨t ++ t', s', (hpath.sleep interval).trans hpath', hwalk.trans hwalk', hvalue'⟩
        · exact ⟨t, s₁, hpath, hwalk, by simp⟩
        · exact ⟨t, s₁, hpath, hwalk, by simp⟩
      · exact ⟨[], s, .refl, .refl, by simp⟩

theorem poll {probe : τ → Run σ (Attempt α τ)}
    (hprobe : ∀ state, Obeys Step s (probe state) fun a s' =>
      (∀ x, a = .done x → Q x s') ∧ ∀ next, a = .again next → s' = s)
    (schedule : Schedule) (state : τ) :
    Obeys Step s (Run.poll schedule state probe) fun p s' => ∀ x, p = .done x → Q x s' :=
  fun h w => pollUntil hprobe schedule.interval w.clock (w.clock + schedule.timeout) _ state h w

end Obeys

end Run

end Cutover
