/-
**Runs.**

A run is a program that makes requests one after the other.  What answers them is a host: it has a
state of its own, and each answer may change that state and take time.  Nothing is assumed of a
host.  A run keeps a journal of its requests with their results and of the lines it reports, and a
clock that moves only while it waits and while it is answered.

A loop that nothing else bounds ends after a number of rounds that the host sets; a run that has
used them up is unfinished, which is neither a success nor a failure.

Main definitions:

* `Cutover.Host` — what answers requests; `Cutover.World` — its state with the clock and journal;
* `Cutover.Run` — a run, and `Cutover.Outcome` how it ends;
* `Cutover.Run.call`, `Run.report`, `Run.sleep`, `Run.now`, `Run.attempt` — the steps of a run.
-/
import Cutover.Cloud.Request

set_option autoImplicit false

namespace Cutover

/-- How much a reported line matters. -/
inductive Level
  | info
  | warn
  | error
deriving DecidableEq

/-- A line that a run reports, with named details. -/
structure ReportLine where
  level : Level
  message : String
  details : List (String × String)
deriving DecidableEq

/-- What a run does that can be seen. -/
inductive Entry
  /-- A request with its result. -/
  | call (request : Request) (result : Except Failure request.Reply)
  | report (line : ReportLine)

/-- The answer to a request: its result, the time it takes in milliseconds, and the state after
it. -/
structure Answer (σ : Type) (r : Request) where
  result : Except Failure r.Reply
  elapsed : Nat
  state : σ

/-- What answers requests. -/
structure Host (σ : Type) where
  answer : (r : Request) → σ → Answer σ r
  /-- How many rounds a loop may take that nothing else bounds. -/
  rounds : Nat

/-- The state of a host with the clock, in milliseconds, and the journal. -/
structure World (σ : Type) where
  state : σ
  clock : Nat
  journal : Array Entry

/-- How a run ends. -/
inductive Outcome (α : Type)
  | ok (value : α)
  | failed (failure : Failure)
  /-- A loop has used up its rounds. -/
  | unfinished

/-- A run. -/
def Run (σ α : Type) := Host σ → World σ → Outcome α × World σ

namespace Run

variable {σ α β : Type}

/-- The run that returns a value and does nothing. -/
def pure (x : α) : Run σ α := fun _ w => (.ok x, w)

/-- One run after another, which goes on only from a value. -/
def bind (m : Run σ α) (f : α → Run σ β) : Run σ β := fun h w =>
  match m h w with
  | (.ok x, w) => f x h w
  | (.failed e, w) => (.failed e, w)
  | (.unfinished, w) => (.unfinished, w)

instance : Monad (Run σ) where
  pure := pure
  bind := bind

/-- The run that fails. -/
def fail (e : Failure) : Run σ α := fun _ w => (.failed e, w)

/-- The run that goes on from a value, or fails. -/
def ofExcept : Except Failure α → Run σ α
  | .ok x => pure x
  | .error e => fail e

/-- The run that has used up its rounds. -/
def unfinished : Run σ α := fun _ w => (.unfinished, w)

/-- A run whose failure is handed on as a value. -/
def attempt (m : Run σ α) : Run σ (Except Failure α) := fun h w =>
  match m h w with
  | (.ok x, w) => (.ok (.ok x), w)
  | (.failed e, w) => (.ok (.error e), w)
  | (.unfinished, w) => (.unfinished, w)

/-- The world with one more entry in its journal. -/
def note (w : World σ) (e : Entry) : World σ := { w with journal := w.journal.push e }

/-- A request, whose failure is the failure of the run. -/
def call (r : Request) : Run σ r.Reply := fun h w =>
  let a := h.answer r w.state
  let w := note ⟨a.state, w.clock + a.elapsed, w.journal⟩ (.call r a.result)
  match a.result with
  | .ok x => (.ok x, w)
  | .error e => (.failed e, w)

/-- A line that is reported. -/
def reportLine (line : ReportLine) : Run σ Unit := fun _ w => (.ok (), note w (.report line))

/-- A line with details that is reported. -/
def report (level : Level) (message : String) (details : List (String × String)) : Run σ Unit :=
  reportLine ⟨level, message, details⟩

/-- A line that is reported for information. -/
def info (message : String) : Run σ Unit := report .info message []

/-- Lines that are reported one after the other. -/
def reportAll : List ReportLine → Run σ Unit
  | [] => pure ()
  | line :: rest => do
    reportLine line
    reportAll rest

/-- A wait, in milliseconds. -/
def sleep (ms : Nat) : Run σ Unit := fun _ w => (.ok (), { w with clock := w.clock + ms })

/-- The time, in milliseconds. -/
def now : Run σ Nat := fun _ w => (.ok w.clock, w)

/-- How many rounds a loop may take that nothing else bounds. -/
def rounds : Run σ Nat := fun h w => (.ok h.rounds, w)

end Run

end Cutover
