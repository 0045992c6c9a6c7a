/-
**Changes that can be taken back.**

Rules are created and deleted one by one.  For every change that succeeds it is recorded how to
take it back, and when a later change fails, the records are played back from the newest to the
oldest.  Playing back goes on after a failure, so that as much as possible is restored.

Main definitions:

* `Cutover.Rule.Undo` — how to take back one change;
* `Cutover.Rule.Progress` — what a run has changed so far;
* `Cutover.Rule.create`, `Cutover.Rule.delete` — changes with their records;
* `Cutover.Rule.rollBack` — the failure of a run after its changes are taken back.
-/
import Cutover.LoadBalancer

set_option autoImplicit false

namespace Cutover.Rule

variable {σ : Type}

/-- How to take back one change. -/
inductive Undo
  /-- A created rule is deleted. -/
  | delete (arn : String)
  /-- A deleted rule is created again. -/
  | recreate (rule : ListenerRule)
deriving DecidableEq

/-- What a run has created and deleted. -/
structure Changes where
  created : List ListenerRule
  deleted : List ListenerRule
deriving DecidableEq

/-- Whether nothing was changed. -/
def Changes.isEmpty (c : Changes) : Bool := c.created.isEmpty && c.deleted.isEmpty

/-- What a run has changed so far, with how to take it back, newest first. -/
structure Progress where
  undos : List Undo
  changes : Changes

namespace Progress

/-- Nothing is changed yet. -/
def start : Progress := ⟨[], ⟨[], []⟩⟩

/-- Whether nothing is changed yet. -/
def isUntouched (p : Progress) : Bool := p.undos.isEmpty

/-- One more rule is created. -/
def addCreated (p : Progress) (r : ListenerRule) : Progress :=
  ⟨.delete r.arn :: p.undos, ⟨p.changes.created ++ [r], p.changes.deleted⟩⟩

/-- One more rule is deleted. -/
def addDeleted (p : Progress) (r : ListenerRule) : Progress :=
  ⟨.recreate r :: p.undos, ⟨p.changes.created, p.changes.deleted ++ [r]⟩⟩

end Progress

/-! ### Changes -/

/-- A part of a run that changes rules: how far it came, and why it stopped if it did. -/
abbrev Step (σ : Type) := Progress → Run σ (Progress × Option Failure)

/-- A rule is created. -/
def create (listener : String) (d : Definition) : Step σ := fun p => do
  match ← Run.attempt (LoadBalancer.createRule listener d) with
  | .ok r => return (p.addCreated r, none)
  | .error e => return (p, some e)

/-- A rule is deleted. -/
def delete (r : ListenerRule) : Step σ := fun p => do
  match ← Run.attempt (LoadBalancer.deleteRule r.arn) with
  | .ok () => return (p.addDeleted r, none)
  | .error e => do
    Run.report .error ("Failed to delete existing rule " ++ r.arn ++ ": " ++ e.message)
      [("rule", r.arn)]
    return (p, some e)

/-- One part of a run after another, unless the first stops. -/
def andThen (first second : Step σ) : Step σ := fun p => do
  match ← first p with
  | (p, none) => second p
  | (p, some e) => return (p, some e)

/-! ### Taking changes back -/

/-- What playing back has done. -/
structure Restored where
  byCreation : List String
  byDeletion : List String
  failures : List String
deriving DecidableEq

/-- What playing back one record does. -/
def playBack (listener : String) (done : Restored) : Undo → Run σ Restored
  | .delete arn => do
    match ← Run.attempt (LoadBalancer.deleteRule arn) with
    | .ok () => return { done with byDeletion := done.byDeletion ++ [arn] }
    | .error e =>
      let text := "Failed to delete rule " ++ arn ++ " during rollback: " ++ e.message
      return { done with failures := done.failures ++ [text] }
  | .recreate r => do
    match r.definition? with
    | none =>
      let text := "Failed to recreate rule " ++ r.arn ++
        " during rollback: default rules cannot be created"
      return { done with failures := done.failures ++ [text] }
    | some d =>
      match ← Run.attempt (LoadBalancer.createRule listener d) with
      | .ok made => return { done with byCreation := done.byCreation ++ [made.arn] }
      | .error e =>
        let text := "Failed to recreate rule " ++ r.arn ++ " during rollback: " ++ e.message
        return { done with failures := done.failures ++ [text] }

/-- What playing back records in their order does. -/
def playBackAll (listener : String) (done : Restored) : List Undo → Run σ Restored
  | [] => return done
  | u :: rest => do playBackAll listener (← playBack listener done u) rest

/-- The failure of a run with what was taken back after it. -/
def Restored.failure (done : Restored) (cause : Failure) : Failure :=
  if done.failures.isEmpty then .rolledBack cause done.byCreation done.byDeletion
  else .rollbackFailed cause done.failures done.byCreation done.byDeletion

/-- The lines that are reported after changes are taken back. -/
def Restored.report (done : Restored) : List ReportLine :=
  if done.failures.isEmpty then
    [⟨.info, "Rollback completed successfully", []⟩,
      ⟨.info, "Rolled back rules by creating: " ++ Text.quoteList done.byCreation ++
        " \n and deleting " ++ Text.quoteList done.byDeletion, []⟩]
  else
    [⟨.warn, "Some rollback operations failed. Manual intervention may be required.", []⟩]

/-- The line in front of everything that is done to take changes back. -/
def rollingBackLine : ReportLine := ⟨.warn, "Rolling back", []⟩

/-- All changes are taken back, and the run fails. -/
def rollBack {α : Type} (listener : String) (p : Progress) (cause : Failure) : Run σ α := do
  Run.report .error ("Error during rule update: " ++ cause.message) []
  Run.reportLine rollingBackLine
  let done ← playBackAll listener ⟨[], [], []⟩ p.undos
  Run.reportAll done.report
  Run.fail (done.failure cause)

end Cutover.Rule
