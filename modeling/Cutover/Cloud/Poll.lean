/-
**Bounded polls.**

A poll makes attempts at a fixed interval until one is done or time is up.  The time is looked at
before each attempt only, so an attempt that starts in time counts however long it takes.  Each
attempt is given what the one before it has reported.

Main definitions:

* `Cutover.Schedule` — interval and time limit, in milliseconds;
* `Cutover.Run.poll` — the poll, and `Cutover.Polled` how it ends.
-/
import Cutover.Cloud.Run

set_option autoImplicit false

namespace Cutover

/-- The interval between attempts and the time limit, in milliseconds. -/
structure Schedule where
  interval : Nat
  timeout : Nat
deriving DecidableEq

namespace Schedule

/-- A schedule in seconds. -/
def seconds (interval timeout : Nat) : Schedule := ⟨interval * 1000, timeout * 1000⟩

/-- The seconds between attempts by default. -/
def defaultInterval : Nat := 2

/-- A schedule in seconds at the default interval. -/
def withTimeout (timeout : Nat) : Schedule := seconds defaultInterval timeout

/-- The number of attempts after which time is up however short they are; without an interval
there is none. -/
def attempts? (s : Schedule) : Option Nat :=
  if s.interval = 0 then none else some ((s.timeout + s.interval - 1) / s.interval)

end Schedule

/-- What an attempt reports: a result, or what the next attempt goes on from. -/
inductive Attempt (α τ : Type)
  | done (value : α)
  | again (state : τ)

/-- How a poll ends: with a result, or with what the last attempt reported and the time spent. -/
inductive Polled (α τ : Type)
  | done (value : α)
  | timedOut (state : τ) (elapsed : Nat)
deriving DecidableEq

namespace Run

variable {σ α τ : Type}

/-- The attempts from a state on that start before `deadline`, in at most so many rounds. -/
def pollUntil (interval start deadline : Nat) (probe : τ → Run σ (Attempt α τ)) :
    Nat → τ → Run σ (Polled α τ)
  | 0, state => fun _ w =>
    if w.clock < deadline then (.unfinished, w)
    else (.ok (.timedOut state (w.clock - start)), w)
  | fuel + 1, state => fun h w =>
    if w.clock < deadline then
      match probe state h w with
      | (.ok (.done x), w) => (.ok (.done x), w)
      | (.ok (.again next), w) =>
        pollUntil interval start deadline probe fuel next h
          { w with clock := w.clock + interval }
      | (.failed e, w) => (.failed e, w)
      | (.unfinished, w) => (.unfinished, w)
    else (.ok (.timedOut state (w.clock - start)), w)

/-- Attempts at a fixed interval until one is done or fails or time is up. -/
def poll (s : Schedule) (initial : τ) (probe : τ → Run σ (Attempt α τ)) :
    Run σ (Polled α τ) := fun h w =>
  pollUntil s.interval w.clock (w.clock + s.timeout) probe (s.attempts?.getD h.rounds) initial h w

end Run

end Cutover
