/-
**The attempts of a poll.**

A poll is a loop over time.  It is given a number of rounds only so that it ends; where there is an
interval between attempts the deadline comes before the rounds are used up, so the number does not
matter.  What is left are attempts: each of them starts in time and goes on from what the one before
it has reported, up to the first that does not ask for another one or to the deadline.

What is to be said of an attempt differs from poll to poll, so the attempts are listed as they are
seen, in a way that is chosen for each poll: with their times, with the entries that they add to the
journal, or with what they have found.

Main definitions:

* `Cutover.Run.attemptAt` — what an attempt goes on from, by its number, and the world in which it
  starts;
* `Cutover.Run.Seeing` — a way to see the attempts of a probe, and `Cutover.Run.Timing` — one that
  tells their times and their requests;
* `Cutover.Run.Tries` — the attempts of a poll as they are seen, and what they come to.

Main results:

* `Cutover.Run.exists_tries` — attempts come to something: the time that is left gets less;
* `Cutover.Run.Tries.pollUntil_eq` — what they come to is what the poll ends with;
* `Cutover.Run.poll_tries` — **a poll makes attempts until one decides or time is up**;
* `Cutover.Run.Tries.path`, `Cutover.Run.Tries.early`, `Cutover.Run.Tries.spaced`,
  `Cutover.Run.Tries.spans`, `Cutover.Run.Tries.exists_last` — their entries, their times and their
  end.
-/
import Mathlib.Data.List.Chain
import Cutover.Cloud.Poll
import Cutover.Proofs.Run.Path

set_option autoImplicit false

namespace Cutover

variable {σ α τ ν : Type} {h : Host σ} {w w' : World σ}

/-- The attempts of a schedule last until its time limit, at one interval each. -/
theorem Schedule.attempts?_cover {s : Schedule} (hs : 0 < s.interval) :
    ∃ n, s.attempts? = some n ∧ s.timeout ≤ n * s.interval := by
  refine ⟨(s.timeout + s.interval - 1) / s.interval, ?_, ?_⟩
  · rw [attempts?, if_neg (by omega)]
  · have hdiv := Nat.div_add_mod (s.timeout + s.interval - 1) s.interval
    have hmod := Nat.mod_lt (s.timeout + s.interval - 1) hs
    rw [Nat.mul_comm]
    omega

/-- How a poll ends after so much time if this is what its attempts have come to. -/
def Attempt.polled (elapsed : Nat) : Attempt α τ → Polled α τ
  | .done x => .done x
  | .again state => .timedOut state elapsed

/-- What a wait ends with whose attempts come to this: with a result as it is, and with a failure
that tells the state at which time was up. -/
def Outcome.settled (late : τ → Failure) : Outcome (Attempt α τ) → Outcome α
  | .ok (.done x) => .ok x
  | .ok (.again state) => .failed (late state)
  | .failed e => .failed e
  | .unfinished => .unfinished

@[simp] theorem Outcome.settled_done (late : τ → Failure) (o : Outcome α) :
    (o.map .done).settled late = o := by
  rcases o with x | e | _ <;> rfl

namespace Run

/-- The world after a wait. -/
def waited (w : World σ) (ms : Nat) : World σ := { w with clock := w.clock + ms }

variable {interval deadline : Nat} {probe : τ → Run σ (Attempt α τ)} {state next : τ}

/-! ### Attempts by their numbers -/

/-- What an attempt of a poll goes on from, by its number, and the world in which it starts.  There
is such an attempt if every one in front of it asks for another. -/
def attemptAt (h : Host σ) (interval : Nat) (probe : τ → Run σ (Attempt α τ)) (initial : τ)
    (w : World σ) : Nat → Option (τ × World σ)
  | 0 => some (initial, w)
  | k + 1 =>
    match attemptAt h interval probe initial w k with
    | some (state, u) =>
      match probe state h u with
      | (.ok (.again next), u') => some (next, waited u' interval)
      | _ => none
    | none => none

/-- Behind the first attempt of a poll, the others are those of a poll that starts with the
second. -/
theorem attemptAt_succ (hprobe : probe state h w = (.ok (.again next), w')) (k : Nat) :
    attemptAt h interval probe state w (k + 1) =
      attemptAt h interval probe next (waited w' interval) k := by
  induction k with
  | zero => simp only [attemptAt, hprobe]
  | succ k ih => rw [attemptAt, ih, attemptAt]

/-! ### Attempts as they are seen -/

/-- A way to see the attempts of a probe: what is seen has happened, and time does not run backwards
meanwhile. -/
structure Seeing (h : Host σ) (probe : τ → Run σ (Attempt α τ))
    (Sees : ν → τ → World σ → Outcome (Attempt α τ) → World σ → Prop) : Prop where
  ran : ∀ {x state w o w'}, Sees x state w o w' → probe state h w = (o, w')
  forward : ∀ {x state w o w'}, Sees x state w o w' → w.clock ≤ w'.clock

/-- A way to see the attempts of a probe that tells when they begin and end, and the requests that
they make without a wait. -/
structure Timing (h : Host σ) (probe : τ → Run σ (Attempt α τ))
    (Sees : ν → τ → World σ → Outcome (Attempt α τ) → World σ → Prop)
    (entries : ν → List Entry) (opened closed : ν → Nat) : Prop where
  ran : ∀ {x state w o w'}, Sees x state w o w' → probe state h w = (o, w')
  starts : ∀ {x state w o w'}, Sees x state w o w' → opened x = w.clock
  ends : ∀ {x state w o w'}, Sees x state w o w' → closed x = w'.clock
  prompt : ∀ {x state w o w'}, Sees x state w o w' → Prompt h w (entries x) w'

/-- The attempts of a poll as they are seen, from a state on, and what they come to: the last
attempt, which does not ask for another one, or the state at the deadline. -/
inductive Tries (interval deadline : Nat)
    (Sees : ν → τ → World σ → Outcome (Attempt α τ) → World σ → Prop) :
    τ → World σ → List ν → Outcome (Attempt α τ) → World σ → Prop
  | late {state : τ} {w : World σ} : deadline ≤ w.clock →
      Tries interval deadline Sees state w [] (.ok (.again state)) w
  | last {x : ν} {state : τ} {w w' : World σ} {o : Outcome (Attempt α τ)} : w.clock < deadline →
      Sees x state w o w' → (∀ next, o ≠ .ok (.again next)) →
      Tries interval deadline Sees state w [x] o w'
  | again {x : ν} {state next : τ} {w w₁ w' : World σ} {xs : List ν}
      {o : Outcome (Attempt α τ)} : w.clock < deadline →
      Sees x state w (.ok (.again next)) w₁ →
      Tries interval deadline Sees next (waited w₁ interval) xs o w' →
      Tries interval deadline Sees state w (x :: xs) o w'

variable {Sees : ν → τ → World σ → Outcome (Attempt α τ) → World σ → Prop} {xs : List ν}
  {o : Outcome (Attempt α τ)} {entries : ν → List Entry} {opened closed : ν → Nat}

/-- Where there are only requests time does not run backwards. -/
theorem Timing.seeing (htiming : Timing h probe Sees entries opened closed) :
    Seeing h probe Sees :=
  ⟨htiming.ran, fun hx => (htiming.prompt hx).path.clock_le⟩

/-- Attempts come to something if each of them can be seen: time is up after so many intervals. -/
theorem exists_tries (hseeing : Seeing h probe Sees) {n : Nat}
    (hn : deadline ≤ w.clock + n * interval)
    (hall : ∀ k state' u, attemptAt h interval probe state w k = some (state', u) →
      ∃ x, Sees x state' u (probe state' h u).1 (probe state' h u).2) :
    ∃ xs o w', Tries interval deadline Sees state w xs o w' := by
  induction n generalizing state w with
  | zero => exact ⟨[], _, w, .late (by omega)⟩
  | succ n ih =>
      by_cases hearly : w.clock < deadline
      · obtain ⟨x, hx⟩ := hall 0 state w rfl
        rcases hprobe : probe state h w with ⟨(y | next) | e | _, w₁⟩ <;> rw [hprobe] at hx
        · exact ⟨[x], _, w₁, .last hearly hx (by simp)⟩
        · have hforward : w.clock ≤ w₁.clock := hseeing.forward hx
          have hround : (n + 1) * interval = n * interval + interval := Nat.succ_mul _ _
          have hrest : deadline ≤ (waited w₁ interval).clock + n * interval := by
            simp only [waited]
            omega
          obtain ⟨xs, o, w', htries⟩ := ih hrest fun k state' u hk =>
            hall (k + 1) state' u ((attemptAt_succ hprobe k).trans hk)
          exact ⟨x :: xs, o, w', .again hearly hx htries⟩
        · exact ⟨[x], _, w₁, .last hearly hx (by simp)⟩
        · exact ⟨[x], _, w₁, .last hearly hx (by simp)⟩
      · exact ⟨[], _, w, .late (by omega)⟩

namespace Tries

/-- What attempts come to is what the poll ends with, if its rounds last until the deadline. -/
theorem pollUntil_eq (hseeing : Seeing h probe Sees)
    (htries : Tries interval deadline Sees state w xs o w') {fuel : Nat}
    (hfuel : deadline ≤ w.clock + fuel * interval) (start : Nat) :
    pollUntil interval start deadline probe fuel state h w =
      (o.map (Attempt.polled (w'.clock - start)), w') := by
  induction htries generalizing fuel with
  | late hlate =>
      have hlate := Nat.not_lt.2 hlate
      cases fuel <;> simp only [pollUntil, hlate, if_false] <;> rfl
  | @last x state w w' o hearly hx hends =>
      cases fuel with
      | zero => omega
      | succ fuel =>
          simp only [pollUntil, hearly, if_true, hseeing.ran hx]
          rcases o with (y | next) | e | _
          · rfl
          · exact absurd rfl (hends next)
          · rfl
          · rfl
  | @again x state next w w₁ w' xs o hearly hx _ ih =>
      cases fuel with
      | zero => omega
      | succ fuel =>
          have hforward := hseeing.forward hx
          have hround : (fuel + 1) * interval = fuel * interval + interval := Nat.succ_mul _ _
          simp only [pollUntil, hearly, if_true, hseeing.ran hx]
          refine ih ?_
          simp only [waited]
          omega

/-- What attempts come to is what the poll of a schedule with an interval ends with. -/
theorem poll_eq {s : Schedule} (hs : 0 < s.interval) (hseeing : Seeing h probe Sees)
    (htries : Tries s.interval (w.clock + s.timeout) Sees state w xs o w') :
    poll s state probe h w = (o.map (Attempt.polled (w'.clock - w.clock)), w') := by
  obtain ⟨n, hn, hcover⟩ := Schedule.attempts?_cover hs
  simp only [poll, hn, Option.getD_some]
  exact htries.pollUntil_eq hseeing (by omega) w.clock

/-- The entries of a poll are those of its attempts. -/
theorem path (htiming : Timing h probe Sees entries opened closed)
    (htries : Tries interval deadline Sees state w xs o w') :
    Path h w (xs.flatMap entries) w' := by
  induction htries with
  | late _ => exact .refl
  | last _ hx _ => simpa using (htiming.prompt hx).path
  | again _ hx _ ih =>
      rw [List.flatMap_cons]
      exact ((htiming.prompt hx).path.sleep interval).trans ih

/-- Every attempt is seen. -/
theorem seen (htries : Tries interval deadline Sees state w xs o w') :
    ∀ x ∈ xs, ∃ state' u o' u', Sees x state' u o' u' := by
  induction htries with
  | late _ => simp
  | last _ hx _ => simpa using ⟨_, _, _, _, hx⟩
  | again _ hx _ ih => exact List.forall_mem_cons.2 ⟨⟨_, _, _, _, hx⟩, ih⟩

/-- Every attempt starts in time. -/
theorem early (htiming : Timing h probe Sees entries opened closed)
    (htries : Tries interval deadline Sees state w xs o w') :
    ∀ x ∈ xs, w.clock ≤ opened x ∧ opened x < deadline := by
  induction htries with
  | late _ => simp
  | last hearly hx _ =>
      have hbegun := htiming.starts hx
      simp only [List.mem_singleton, forall_eq]
      omega
  | again hearly hx _ ih =>
      have hbegun := htiming.starts hx
      refine List.forall_mem_cons.2 ⟨by omega, fun y hy => ?_⟩
      have hforward := htiming.seeing.forward hx
      have hlater := ih y hy
      simp only [waited] at hlater
      omega

/-- Attempts that come to a state at which another one is due end at the deadline. -/
theorem late_of_again {last : τ}
    (htries : Tries interval deadline Sees state w xs (.ok (.again last)) w') :
    deadline ≤ w'.clock := by
  generalize ho : Outcome.ok (Attempt.again last : Attempt α τ) = o at htries
  induction htries with
  | late hlate => exact hlate
  | last _ _ hends => exact absurd ho.symm (hends last)
  | again _ _ _ ih => exact ih ho

/-- Each attempt starts where the one in front of it has ended, one interval later. -/
theorem spaced (htiming : Timing h probe Sees entries opened closed)
    (htries : Tries interval deadline Sees state w xs o w') :
    (∀ x ∈ xs.head?, opened x = w.clock) ∧
      xs.IsChain (fun x y => opened y = closed x + interval) := by
  induction htries with
  | late _ => simp
  | last _ hx _ => simpa using htiming.starts hx
  | again _ hx _ ih =>
      refine ⟨by simpa using htiming.starts hx, List.isChain_cons.2 ⟨fun y hy => ?_, ih.2⟩⟩
      rw [ih.1 y hy, htiming.ends hx]
      rfl

/-- Each attempt is made in the world to which those in front of it have led, and takes as long as
its requests. -/
theorem spans (htiming : Timing h probe Sees entries opened closed)
    (htries : Tries interval deadline Sees state w xs o w') {before after : List ν} {x : ν}
    (hsplit : xs = before ++ x :: after) :
    Spans h w (before.flatMap entries) (entries x) (opened x) (closed x) := by
  induction htries generalizing before with
  | late _ => simp at hsplit
  | last _ hx _ =>
      cases before with
      | nil =>
          cases hsplit
          exact ⟨_, _, .refl, (htiming.starts hx).symm, htiming.prompt hx, (htiming.ends hx).symm⟩
      | cons y before => simp at hsplit
  | again _ hx _ ih =>
      cases before with
      | nil =>
          cases hsplit
          exact ⟨_, _, .refl, (htiming.starts hx).symm, htiming.prompt hx, (htiming.ends hx).symm⟩
      | cons y before =>
          obtain ⟨rfl, hbehind⟩ := List.cons.inj hsplit
          obtain ⟨u, u', hpath, hspan⟩ := ih hbehind
          exact ⟨u, u', ((htiming.prompt hx).path.sleep interval).trans hpath, hspan⟩

/-- What attempts come to is what the last of them has ended with, and every other one has asked for
another; without an attempt it is the state from which they should have started.  Where another one
is due behind the last, the interval has passed. -/
theorem ended (htries : Tries interval deadline Sees state w xs o w') :
    (xs = [] ∧ o = .ok (.again state) ∧ w' = w) ∨
      ∃ front x, xs = front ++ [x] ∧
        (∃ state' u u', Sees x state' u o u' ∧
          ((∃ next, o = .ok (.again next)) ∧ w' = waited u' interval ∨
            (∀ next, o ≠ .ok (.again next)) ∧ w' = u')) ∧
        ∀ y ∈ front, ∃ state' u next u', Sees y state' u (.ok (.again next)) u' := by
  induction htries with
  | late _ => exact .inl ⟨rfl, rfl, rfl⟩
  | last _ hx hends => exact .inr ⟨[], _, rfl, ⟨_, _, _, hx, .inr ⟨hends, rfl⟩⟩, by simp⟩
  | @again x _ _ _ _ _ _ _ _ hx _ ih =>
      rcases ih with ⟨rfl, rfl, rfl⟩ | ⟨front, y, rfl, hy, hfront⟩
      · exact .inr ⟨[], x, rfl, ⟨_, _, _, hx, .inl ⟨⟨_, rfl⟩, rfl⟩⟩, by simp⟩
      · refine .inr ⟨x :: front, y, rfl, hy, fun z hz => ?_⟩
        rcases List.mem_cons.1 hz with rfl | hz
        · exact ⟨_, _, _, _, hx⟩
        · exact hfront z hz

/-- Where there is time there is a last attempt. -/
theorem exists_last (hearly : w.clock < deadline)
    (htries : Tries interval deadline Sees state w xs o w') :
    ∃ front x, xs = front ++ [x] ∧
      (∃ state' u u', Sees x state' u o u' ∧
        ((∃ next, o = .ok (.again next)) ∧ w' = waited u' interval ∨
          (∀ next, o ≠ .ok (.again next)) ∧ w' = u')) ∧
      ∀ y ∈ front, ∃ state' u next u', Sees y state' u (.ok (.again next)) u' := by
  rcases htries.ended with ⟨-, rfl, rfl⟩ | hlast
  · exact absurd htries.late_of_again (Nat.not_le.2 hearly)
  · exact hlast

end Tries

/-- **A poll makes attempts until one decides or time is up.** -/
theorem poll_tries {s : Schedule} (hs : 0 < s.interval) (hseeing : Seeing h probe Sees)
    (hall : ∀ state w, ∃ x, Sees x state w (probe state h w).1 (probe state h w).2) (state : τ)
    (w : World σ) :
    ∃ xs o w', poll s state probe h w = (o.map (Attempt.polled (w'.clock - w.clock)), w') ∧
      Tries s.interval (w.clock + s.timeout) Sees state w xs o w' := by
  obtain ⟨n, -, hcover⟩ := Schedule.attempts?_cover hs
  have hn : w.clock + s.timeout ≤ w.clock + n * s.interval := by omega
  obtain ⟨xs, o, w', htries⟩ := exists_tries hseeing hn fun _ state' u _ => hall state' u
  exact ⟨xs, o, w', htries.poll_eq hs hseeing, htries⟩

/-- A wait that returns the result of its poll, or fails when time is up. -/
theorem poll_settled {s : Schedule} {f : Polled α τ → Run σ α} {elapsed : Nat}
    (late : τ → Nat → Failure) (hdone : ∀ x, f (.done x) = pure x)
    (hlate : ∀ state spent, f (.timedOut state spent) = fail (late state spent))
    (hpoll : poll s state probe h w = (o.map (Attempt.polled elapsed), w')) :
    (poll s state probe >>= f) h w = (o.settled (late · elapsed), w') := by
  rcases o with (x | next) | e | _
  · rw [bind_ok hpoll, Attempt.polled, hdone]
    rfl
  · rw [bind_ok hpoll, Attempt.polled, hlate]
    rfl
  · exact bind_failed hpoll
  · exact bind_unfinished hpoll

end Run

end Cutover
