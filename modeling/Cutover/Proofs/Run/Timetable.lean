/-
**At which times a poll makes its attempts.**

The first attempt of a poll is made at once.  Each further one is made when the attempt in front of
it has taken its time and the interval has passed.  The deadline is looked at in between only: an
attempt that is due in front of it is made, however long it takes, and one that is due at it or
behind it is not made.  So everything about a poll follows from how long its attempts take.

Which attempts a poll makes is seen by giving it a probe that keeps a list of its calls.

Main definitions:

* `Cutover.Run.startTime` — when an attempt is due;
* `Cutover.Run.recorded` — a probe that keeps a list of its calls, with times and states;
* `Cutover.Run.Decided` — how a poll ends with an attempt that decides it.

Main results:

* `Cutover.Run.Tries.attemptAt`, `Cutover.Run.Tries.endsAt` — attempts and their end by number;
* `Cutover.Run.Tries.recorded` — a probe that keeps a list of its calls does the same otherwise;
* `Cutover.Run.poll_timetable` — **the times of its attempts determine a poll**.
-/
import Mathlib.Algebra.Order.Floor.Div
import Cutover.Proofs.Run.Attempts

set_option autoImplicit false

namespace Cutover

variable {σ α τ : Type} {h : Host σ} {w w' : World σ}

/-- A world whose host besides keeps a list. -/
def World.keeping {ρ : Type} (w : World σ) (l : List ρ) : World (σ × List ρ) :=
  ⟨(w.state, l), w.clock, w.journal⟩

namespace Run

variable {interval deadline : Nat} {probe : τ → Run σ (Attempt α τ)} {state initial : τ}
  {made : List (Nat × τ)} {o : Outcome (Attempt α τ)}

/-- The time, from the first attempt on, at which an attempt is due by its number, if `d k` is the
time that attempt `k` takes. -/
def startTime (interval : Nat) (d : Nat → Nat) : Nat → Nat
  | 0 => 0
  | k + 1 => startTime interval d k + d k + interval

/-- A probe that besides keeps a list of its calls: each with the time and the given state. -/
def recorded (h : Host σ) (probe : τ → Run σ (Attempt α τ)) :
    τ → Run (σ × List (Nat × τ)) (Attempt α τ) := fun state _ w =>
  let r := probe state h ⟨w.state.1, w.clock, w.journal⟩
  (r.1, r.2.keeping (w.state.2 ++ [(w.clock, state)]))

/-- How a poll ends with an attempt that decides it. -/
inductive Decided : Outcome (Attempt α τ) → Outcome (Polled α τ) → Prop
  | done (x : α) : Decided (.ok (.done x)) (.ok (.done x))
  | failed (e : Failure) : Decided (.failed e) (.failed e)
  | unfinished : Decided .unfinished .unfinished

theorem decided_of_ne_again (hends : ∀ next, o ≠ .ok (.again next)) (elapsed : Nat) :
    Decided o (o.map (Attempt.polled elapsed)) := by
  rcases o with (x | next) | e | _
  · exact .done x
  · exact absurd rfl (hends next)
  · exact .failed e
  · exact .unfinished

/-! ### Times -/

/-- The time at which an attempt starts follows from how long those in front of it take. -/
theorem attemptAt_clock {d : Nat → Nat}
    (htakes : ∀ k state u, attemptAt h interval probe initial w k = some (state, u) →
      (probe state h u).2.clock = u.clock + d k) (k : Nat) :
    ∀ state u, attemptAt h interval probe initial w k = some (state, u) →
      u.clock = w.clock + startTime interval d k := by
  induction k with
  | zero =>
      intro state u hk
      cases hk
      rfl
  | succ k ih =>
      intro next v hk
      rw [attemptAt] at hk
      rcases hbefore : attemptAt h interval probe initial w k with _ | ⟨state, u⟩
      · simp only [hbefore] at hk
        cases hk
      have hclock := ih state u hbefore
      have hspent := htakes k state u hbefore
      rcases hprobe : probe state h u with ⟨(x | next') | e | _, u'⟩ <;>
        simp only [hbefore, hprobe] at hk hspent <;> cases hk
      simp only [waited, startTime]
      omega

/-- Attempts without a duration fill the time up to the limit, one for each interval that has
begun. -/
theorem length_of_instant {n timeout : Nat} {d : Nat → Nat} (hinterval : 0 < interval)
    (hinstant : ∀ k < n, d k = 0) (hearly : ∀ k < n, startTime interval d k < timeout)
    (hlate : timeout ≤ startTime interval d n) : n = timeout ⌈/⌉ interval := by
  have htimes : ∀ k ≤ n, startTime interval d k = k * interval := by
    intro k hk
    induction k with
    | zero => simp [startTime]
    | succ k ih =>
        rw [startTime, ih (by omega), hinstant k (by omega), Nat.succ_mul]
        rfl
  have hle : timeout ⌈/⌉ interval ≤ n := by
    rw [ceilDiv_le_iff_le_mul hinterval, Nat.mul_comm, ← htimes n le_rfl]
    exact hlate
  refine le_antisymm ?_ hle
  by_contra hlt
  have hearlier := hearly (timeout ⌈/⌉ interval) (by omega)
  rw [htimes _ hle] at hearlier
  have hcover : timeout ≤ interval * (timeout ⌈/⌉ interval) :=
    (ceilDiv_le_iff_le_mul hinterval).1 le_rfl
  rw [Nat.mul_comm] at hcover
  omega

/-! ### Calls -/

/-- What is seen of an attempt: the time at which it starts and the state that it is given. -/
def SeesCall (h : Host σ) (probe : τ → Run σ (Attempt α τ)) (x : Nat × τ) (state : τ)
    (w : World σ) (o : Outcome (Attempt α τ)) (w' : World σ) : Prop :=
  x = (w.clock, state) ∧ probe state h w = (o, w') ∧ w.clock ≤ w'.clock

theorem seeing_calls (h : Host σ) (probe : τ → Run σ (Attempt α τ)) :
    Seeing h probe (SeesCall h probe) :=
  ⟨fun hx => hx.2.1, fun hx => hx.2.2⟩

namespace Tries

/-- Attempts by their numbers. -/
theorem attemptAt (htries : Tries interval deadline (SeesCall h probe) state w made o w') :
    ∀ k x, made[k]? = some x → ∃ u, Run.attemptAt h interval probe state w k = some (x.2, u) ∧
      x.1 = u.clock ∧ u.clock < deadline := by
  induction htries with
  | late _ => simp
  | last hearly hx _ =>
      obtain ⟨rfl, -, -⟩ := hx
      intro k y hy
      cases k with
      | zero =>
          cases hy
          exact ⟨_, rfl, rfl, hearly⟩
      | succ k => cases hy
  | again hearly hx _ ih =>
      obtain ⟨rfl, hprobe, -⟩ := hx
      intro k y hy
      cases k with
      | zero =>
          cases hy
          exact ⟨_, rfl, rfl, hearly⟩
      | succ k =>
          rw [attemptAt_succ hprobe]
          exact ih k y hy

/-- The end by the number of the attempt that has led to it, or of the one that is due behind the
deadline. -/
theorem endsAt (htries : Tries interval deadline (SeesCall h probe) state w made o w') :
    (∃ k last u, made.length = k + 1 ∧ Run.attemptAt h interval probe state w k = some (last, u) ∧
        probe last h u = (o, w') ∧ ∀ next, o ≠ .ok (.again next)) ∨
      ∃ last, Run.attemptAt h interval probe state w made.length = some (last, w') ∧
        o = .ok (.again last) ∧ deadline ≤ w'.clock := by
  induction htries with
  | late hlate => exact .inr ⟨_, rfl, rfl, hlate⟩
  | last _ hx hends => exact .inl ⟨0, _, _, rfl, rfl, hx.2.1, hends⟩
  | again _ hx _ ih =>
      rcases ih with ⟨k, last, u, hlength, hk, hend⟩ | ⟨last, hk, ho, hlate⟩
      · refine .inl ⟨k + 1, last, u, by rw [List.length_cons, hlength], ?_, hend⟩
        rw [attemptAt_succ hx.2.1, hk]
      · exact .inr ⟨last, by rw [List.length_cons, attemptAt_succ hx.2.1, hk], ho, hlate⟩

/-- A probe that keeps a list of its calls does the same otherwise, and the list is that of the
attempts. -/
theorem recorded (htries : Tries interval deadline (SeesCall h probe) state w made o w')
    (h' : Host (σ × List (Nat × τ))) (l : List (Nat × τ)) :
    Tries interval deadline (SeesCall h' (recorded h probe)) state (w.keeping l) made o
      (w'.keeping (l ++ made)) := by
  have hcall : ∀ {x state w o w'} (l : List (Nat × τ)), SeesCall h probe x state w o w' →
      SeesCall h' (Run.recorded h probe) x state (w.keeping l) o (w'.keeping (l ++ [x])) := by
    rintro x state w o w' l ⟨rfl, hprobe, hforward⟩
    refine ⟨rfl, ?_, hforward⟩
    show ((probe state h w).1, (probe state h w).2.keeping _) = _
    rw [hprobe]
    rfl
  induction htries generalizing l with
  | late hlate =>
      rw [List.append_nil]
      exact .late hlate
  | last hearly hx hends => exact .last hearly (hcall l hx) hends
  | @again x _ _ _ _ _ xs _ hearly hx _ ih =>
      have hrest := ih (l ++ [x])
      rw [List.append_assoc] at hrest
      exact .again hearly (hcall l hx) hrest

end Tries

/-- **The times of its attempts determine a poll.**  Let `d k` be the time that attempt `k` takes.
The poll makes its attempts, as a probe that keeps a list of its calls sees them, at the times at
which they are due, and all of them in front of the time limit.  The first one is given the initial
state, and each further one what the one in front of it has asked for.  Either the last attempt that
is made decides, and then the poll ends with it, in the world behind it, whenever that is; or none
decides, and the next one would be due at the time limit or behind it, which is when the poll ends.
It has no attempt only if the time limit is zero; and if attempts take no time and none decides,
there is one for each interval that has begun up to the time limit. -/
theorem poll_timetable {s : Schedule} (hs : 0 < s.interval) {d : Nat → Nat}
    (htakes : ∀ k state u, attemptAt h s.interval probe initial w k = some (state, u) →
      (probe state h u).2.clock = u.clock + d k) (h' : Host (σ × List (Nat × τ))) :
    ∃ (made : List (Nat × τ)) (o : Outcome (Polled α τ)) (w' : World σ),
      poll s initial probe h w = (o, w') ∧
      poll s initial (recorded h probe) h' (w.keeping []) = (o, w'.keeping made) ∧
      (∀ k x, made[k]? = some x → x.1 = w.clock + startTime s.interval d k ∧
        startTime s.interval d k < s.timeout ∧
        ∃ u, attemptAt h s.interval probe initial w k = some (x.2, u) ∧ u.clock = x.1) ∧
      (made = [] ↔ s.timeout = 0) ∧
      ((∃ k state u, made.length = k + 1 ∧
          attemptAt h s.interval probe initial w k = some (state, u) ∧
          Decided (probe state h u).1 o ∧ w' = (probe state h u).2) ∨
        ∃ last, attemptAt h s.interval probe initial w made.length = some (last, w') ∧
          o = .ok (.timedOut last (startTime s.interval d made.length)) ∧
          w'.clock = w.clock + startTime s.interval d made.length ∧
          s.timeout ≤ startTime s.interval d made.length ∧
          ((∀ k < made.length, d k = 0) → made.length = s.timeout ⌈/⌉ s.interval)) := by
  have hseeing := seeing_calls h probe
  obtain ⟨n, -, hcover⟩ := Schedule.attempts?_cover hs
  have hn : w.clock + s.timeout ≤ w.clock + n * s.interval := by omega
  obtain ⟨made, o, w', htries⟩ := exists_tries hseeing hn fun k state u hk =>
    ⟨(u.clock, state), rfl, rfl, by rw [htakes k state u hk]; omega⟩
  have htimes := attemptAt_clock htakes
  have hcalls : ∀ k x, made[k]? = some x → x.1 = w.clock + startTime s.interval d k ∧
      startTime s.interval d k < s.timeout ∧
      ∃ u, attemptAt h s.interval probe initial w k = some (x.2, u) ∧ u.clock = x.1 := by
    intro k x hx
    obtain ⟨u, hk, hclock, hearly⟩ := htries.attemptAt k x hx
    have htime := htimes k _ _ hk
    exact ⟨by omega, by omega, u, hk, hclock.symm⟩
  let empty : List (Nat × τ) := []
  have hrecorded : Tries s.interval ((w.keeping empty).clock + s.timeout)
      (SeesCall h' (recorded h probe)) initial (w.keeping empty) made o (w'.keeping made) :=
    htries.recorded h' empty
  refine ⟨made, _, w', htries.poll_eq hs hseeing, hrecorded.poll_eq hs (seeing_calls h' _),
    hcalls, ?_, ?_⟩
  · constructor
    · rintro rfl
      rcases htries.endsAt with ⟨k, -, -, hlength, -⟩ | ⟨last, hk, -, hlate⟩
      · cases hlength
      · have htime := htimes _ _ _ hk
        simp only [List.length_nil, startTime] at htime
        omega
    · intro hzero
      refine List.eq_nil_iff_forall_not_mem.2 fun x hx => ?_
      obtain ⟨k, hk⟩ := List.mem_iff_getElem?.1 hx
      have hearly := (hcalls k x hk).2.1
      omega
  · rcases htries.endsAt with ⟨k, last, u, hlength, hk, hprobe, hends⟩ | ⟨last, hk, rfl, hlate⟩
    · refine .inl ⟨k, last, u, hlength, hk, ?_, by rw [hprobe]⟩
      rw [hprobe]
      exact decided_of_ne_again hends _
    · have htime := htimes _ _ _ hk
      have hspent : w'.clock - w.clock = startTime s.interval d made.length := by omega
      refine .inr ⟨last, hk, ?_, htime, by omega, fun hinstant => ?_⟩
      · rw [hspent]
        rfl
      · refine length_of_instant hs hinstant (fun k hk => ?_) (by omega)
        exact (hcalls k made[k] (List.getElem?_eq_getElem hk)).2.1

/-- A host that answers nothing. -/
def mute (σ : Type) : Host σ where
  rounds := 0
  answer _ s := ⟨.error (.ecs "out of reach"), 0, s⟩

/-- A probe that takes a tenth of a second and counts its calls. -/
def countingProbe (n : Nat) : Run Unit (Attempt Unit Nat) := do
  sleep 100
  return .again (n + 1)

/-- In five seconds there is time for three attempts, two seconds apart, and the third wait goes
past the time limit. -/
theorem poll_timetable_counting :
    0 < (⟨2000, 5000⟩ : Schedule).interval ∧
    (∀ k n u, attemptAt (mute Unit) 2000 countingProbe 0 ⟨(), 0, #[]⟩ k = some (n, u) →
      (countingProbe n (mute Unit) u).2.clock = u.clock + 100) ∧
    ∃ w', poll ⟨2000, 5000⟩ 0 countingProbe (mute Unit) ⟨(), 0, #[]⟩ =
        (.ok (.timedOut 3 6300), w') ∧ w'.clock = 6300 ∧
      poll ⟨2000, 5000⟩ 0 (recorded (mute Unit) countingProbe) (mute _)
          (World.keeping ⟨(), 0, #[]⟩ []) =
        (.ok (.timedOut 3 6300), w'.keeping [(0, 0), (2100, 1), (4200, 2)]) := by
  have htakes : ∀ k n u, attemptAt (mute Unit) 2000 countingProbe 0 ⟨(), 0, #[]⟩ k = some (n, u) →
      (countingProbe n (mute Unit) u).2.clock = u.clock + 100 := fun _ _ _ _ => rfl
  refine ⟨by decide, htakes, ?_⟩
  obtain ⟨made, o, w', hrun, hrecorded, -, -, hends⟩ :=
    poll_timetable (s := ⟨2000, 5000⟩) (d := fun _ => 100) (by decide) htakes (mute _)
  have hmade : made = [(0, 0), (2100, 1), (4200, 2)] :=
    (congrArg (fun r => r.2.state.2) hrecorded).symm.trans rfl
  subst hmade
  rcases hends with ⟨k, n, u, -, -, hdecided, -⟩ | ⟨last, hlast, rfl, hclock, -⟩
  · cases hdecided
  · cases hlast
    exact ⟨_, hrun, hclock, hrecorded⟩

end Run

end Cutover
