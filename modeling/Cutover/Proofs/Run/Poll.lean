/-
**Polls keep to what their attempts do.**

A poll makes its attempts and waits in between, so it adds to the journal only what they add and
fails only as they do.  What an attempt makes of a failure that is handed on as a value is its own.

Main results:

* `Cutover.Run.Within.rescue` — failures that are handed on as values;
* `Cutover.Run.Within.poll` — polls keep to the entries of their attempts.
-/
import Cutover.Proofs.Run.Attempts

set_option autoImplicit false

namespace Cutover

variable {σ α β τ : Type}

namespace Run

variable {P : Entry → Prop} {F : Failure → Prop} {probe : τ → Run σ (Attempt α τ)}

namespace Within

/-- What follows a run whose failure is handed on may fail with it after all. -/
theorem rescue {m : Run σ α} {f : Except Failure α → Run σ β} (hm : Within P F m)
    (hok : ∀ x, Within P F (f (.ok x)))
    (herror : ∀ e, Within P (fun e' => F e' ∨ e' = e) (f (.error e))) :
    Within P F (Run.attempt m >>= f) := by
  intro h w
  obtain ⟨t, hpath, ht, hfail⟩ := hm h w
  rcases hx : m h w with ⟨x | e | _, w₁⟩ <;> rw [hx] at hpath hfail
  · obtain ⟨t', hpath', ht', hfail'⟩ := hok x h w₁
    rw [bind_ok (attempt_ok hx)]
    refine ⟨t ++ t', hpath.trans hpath', fun y hy => ?_, fun e he => ?_⟩
    · exact (List.mem_append.1 hy).elim (ht y) (ht' y)
    · exact (hfail' e he).imp id fun ⟨r, hr⟩ => ⟨r, List.mem_append_right t hr⟩
  · obtain ⟨t', hpath', ht', hfail'⟩ := herror e h w₁
    rw [bind_ok (attempt_failed hx)]
    refine ⟨t ++ t', hpath.trans hpath', fun y hy => ?_, fun e' he' => ?_⟩
    · exact (List.mem_append.1 hy).elim (ht y) (ht' y)
    · rcases hfail' e' he' with (hown | rfl) | ⟨r, hr⟩
      · exact .inl hown
      · exact (hfail e' rfl).imp id fun ⟨r, hr⟩ => ⟨r, List.mem_append_left t' hr⟩
      · exact .inr ⟨r, List.mem_append_right t hr⟩
  · have hnone : Run.attempt m h w = (.unfinished, w₁) := by
      rw [Run.attempt, hx]
    rw [bind_unfinished hnone]
    exact ⟨t, hpath, ht, fun _ he => by cases he⟩

theorem pollUntil (hprobe : ∀ state, Within P F (probe state)) (interval start deadline fuel : Nat)
    (state : τ) : Within P F (Run.pollUntil interval start deadline probe fuel state) := by
  intro h
  induction fuel generalizing state with
  | zero =>
      intro w
      simp only [Run.pollUntil]
      split <;> exact ⟨[], .refl, by simp, by simp⟩
  | succ fuel ih =>
      intro w
      simp only [Run.pollUntil]
      split
      · obtain ⟨t, hpath, ht, hfail⟩ := hprobe state h w
        rcases hx : probe state h w with ⟨(x | next) | e | _, w₁⟩ <;> rw [hx] at hpath hfail
        · exact ⟨t, hpath, ht, by simp⟩
        · obtain ⟨t', hpath', ht', hfail'⟩ := ih next (waited w₁ interval)
          refine ⟨t ++ t', (hpath.sleep interval).trans hpath', fun y hy => ?_, fun e he => ?_⟩
          · exact (List.mem_append.1 hy).elim (ht y) (ht' y)
          · exact (hfail' e he).imp id (Exists.imp fun _ => List.mem_append_right t)
        · exact ⟨t, hpath, ht, fun e' he' => hfail e' (by cases he'; rfl)⟩
        · exact ⟨t, hpath, ht, by simp⟩
      · exact ⟨[], .refl, by simp, by simp⟩

theorem poll (hprobe : ∀ state, Within P F (probe state)) (s : Schedule) (state : τ) :
    Within P F (Run.poll s state probe) := fun h w =>
  pollUntil hprobe s.interval w.clock (w.clock + s.timeout) _ state h w

end Within

end Run

end Cutover
