/-
**What the journal of a rule update shows.**

The journal says which rules a run created and deleted, and, by the line `Rolling back`, from
where on it took changes back.  The statements about whole runs are made in these terms.

Main definitions:

* `Cutover.requestsIn`, `Cutover.failuresIn` — the requests and their failures;
* `Cutover.Entry.change?` — the change that a request made;
* `Cutover.createdIn`, `Cutover.deletedIn` — the names of the rules that were created and deleted;
* `Cutover.forwardPart`, `Cutover.rollbackPart` — the entries in front of the line that starts
  the taking back, and the entries from there on.

Main results:

* `Cutover.forwardPart_append`, `Cutover.rollbackPart_append` — the two parts of a journal in
  which the line occurs.
-/
import Mathlib.Data.List.TakeWhile
import Cutover.Proofs.Run.Path
import Cutover.Rule.Saga

set_option autoImplicit false

namespace Cutover

open Rule (Undo rollingBackLine)

/-! ### Changes -/

/-- What a request changed. -/
inductive Change
  | created (arn : String)
  | deleted (arn : String)
deriving DecidableEq

/-- The rule that was created. -/
@[simp] def Change.created? : Change → Option String
  | .created arn => some arn
  | .deleted _ => none

/-- The rule that was deleted. -/
@[simp] def Change.deleted? : Change → Option String
  | .created _ => none
  | .deleted arn => some arn

/-- The change that is taken back. -/
def Rule.Undo.change : Undo → Change
  | .delete arn => .created arn
  | .recreate r => .deleted r.arn

/-- The rule that is created again. -/
@[simp] def Rule.Undo.recreated? : Undo → Option ListenerRule
  | .delete _ => none
  | .recreate r => some r

namespace Entry

/-- The change that a successful request has made. -/
def change? : Entry → Option Change
  | .call (.createRule _ _) (.ok r) => some (.created (ListenerRule.arn r))
  | .call (.deleteRule arn) (.ok _) => some (.deleted arn)
  | _ => none

/-- The request of an entry. -/
@[simp] def request? : Entry → Option Request
  | .call r _ => some r
  | .report _ => none

/-- The failure of a request. -/
def failure? : Entry → Option Failure
  | .call _ (.error e) => some e
  | _ => none

/-- Whether an entry is a request to create or to delete a rule, successful or not. -/
def isMutation : Entry → Bool
  | .call (.createRule _ _) _ => true
  | .call (.deleteRule _) _ => true
  | _ => false

/-- Whether an entry is the line that starts the taking back. -/
def isRollingBack : Entry → Bool
  | .report line => line = rollingBackLine
  | _ => false

@[simp] theorem change?_created (l : String) (d : Rule.Definition) (r : ListenerRule) :
    (Entry.call (.createRule l d) (.ok r)).change? = some (.created r.arn) := rfl

@[simp] theorem change?_deleted (arn : String) :
    (Entry.call (.deleteRule arn) (.ok ())).change? = some (.deleted arn) := rfl

@[simp] theorem change?_report (line : ReportLine) : (Entry.report line).change? = none := rfl

@[simp] theorem change?_error (r : Request) (e : Failure) :
    (Entry.call r (.error e)).change? = none := by
  cases r <;> rfl

@[simp] theorem isRollingBack_call (r : Request) (x : Except Failure r.Reply) :
    (Entry.call r x).isRollingBack = false := rfl

theorem isRollingBack_report {line : ReportLine} (hl : line ≠ rollingBackLine) :
    (Entry.report line).isRollingBack = false := by
  simp [isRollingBack, hl]

/-- Only requests to create or delete rules make changes. -/
theorem change?_eq_none {x : Entry} (hx : x.isMutation = false) : x.change? = none := by
  cases x with
  | report line => rfl
  | call r x => cases r <;> first | rfl | simp [isMutation] at hx

end Entry

/-- The requests among entries. -/
def requestsIn (t : List Entry) : List Request := t.filterMap Entry.request?

@[simp] theorem requestsIn_append (t t' : List Entry) :
    requestsIn (t ++ t') = requestsIn t ++ requestsIn t' := List.filterMap_append

@[simp] theorem requestsIn_singleton (x : Entry) : requestsIn [x] = x.request?.toList := by
  cases x <;> rfl

theorem mem_requestsIn {t : List Entry} {r : Request} {x : Except Failure r.Reply}
    (ht : Entry.call r x ∈ t) : r ∈ requestsIn t :=
  List.mem_filterMap.2 ⟨_, ht, rfl⟩

/-- Reported lines are not requests. -/
@[simp] theorem requestsIn_report (lines : List ReportLine) :
    requestsIn (lines.map .report) = [] :=
  List.filterMap_eq_nil_iff.2 fun x hx => by
    obtain ⟨line, -, rfl⟩ := List.mem_map.1 hx
    rfl

/-- Without requests there is nothing that is read off requests. -/
theorem filterMap_eq_nil_of_requestsIn {α : Type} {f : Entry → Option α}
    (hf : ∀ line, f (.report line) = none) {t : List Entry} (ht : requestsIn t = []) :
    t.filterMap f = [] := by
  refine List.filterMap_eq_nil_iff.2 fun x hx => ?_
  have hnone := List.filterMap_eq_nil_iff.1 ht x hx
  cases x with
  | report line => exact hf line
  | call r result => cases hnone

/-- The failures of requests among entries. -/
def failuresIn (t : List Entry) : List Failure := t.filterMap Entry.failure?

/-- A request that failed is among the failures. -/
theorem mem_failuresIn {t : List Entry} {r : Request} {e : Failure}
    (ht : Entry.call r (.error e) ∈ t) : e ∈ failuresIn t :=
  List.mem_filterMap.2 ⟨_, ht, rfl⟩

@[simp] theorem failuresIn_append (t t' : List Entry) :
    failuresIn (t ++ t') = failuresIn t ++ failuresIn t' := List.filterMap_append

/-- Without requests there are no failures. -/
theorem failuresIn_eq_nil {t : List Entry} (ht : requestsIn t = []) : failuresIn t = [] :=
  filterMap_eq_nil_of_requestsIn (fun _ => rfl) ht

/-- The changes among entries. -/
def changesIn (t : List Entry) : List Change := t.filterMap Entry.change?

/-- The names of the rules that were created. -/
def createdIn (t : List Entry) : List String := (changesIn t).filterMap Change.created?

/-- The names of the rules that were deleted. -/
def deletedIn (t : List Entry) : List String := (changesIn t).filterMap Change.deleted?

@[simp] theorem changesIn_nil : changesIn [] = [] := rfl

@[simp] theorem changesIn_append (t t' : List Entry) :
    changesIn (t ++ t') = changesIn t ++ changesIn t' := List.filterMap_append

@[simp] theorem changesIn_singleton (x : Entry) : changesIn [x] = x.change?.toList := by
  cases hx : x.change? <;> simp [changesIn, hx]

@[simp] theorem createdIn_append (t t' : List Entry) :
    createdIn (t ++ t') = createdIn t ++ createdIn t' := by
  simp [createdIn]

@[simp] theorem createdIn_singleton (x : Entry) :
    createdIn [x] = (x.change?.bind Change.created?).toList := by
  rw [createdIn, changesIn_singleton]
  rcases x.change? with _ | ⟨arn⟩ | ⟨arn⟩ <;> rfl

@[simp] theorem deletedIn_append (t t' : List Entry) :
    deletedIn (t ++ t') = deletedIn t ++ deletedIn t' := by
  simp [deletedIn]

@[simp] theorem deletedIn_singleton (x : Entry) :
    deletedIn [x] = (x.change?.bind Change.deleted?).toList := by
  rw [deletedIn, changesIn_singleton]
  rcases x.change? with _ | ⟨arn⟩ | ⟨arn⟩ <;> rfl

/-- Entries without requests to create or delete rules show no changes. -/
theorem changesIn_eq_nil {t : List Entry} (ht : ∀ x ∈ t, x.isMutation = false) :
    changesIn t = [] :=
  List.filterMap_eq_nil_iff.2 fun x hx => Entry.change?_eq_none (ht x hx)

/-- Without requests there are no changes. -/
theorem changesIn_of_requestsIn {t : List Entry} (ht : requestsIn t = []) : changesIn t = [] :=
  filterMap_eq_nil_of_requestsIn (fun _ => rfl) ht

/-! ### The two parts of a journal -/

/-- The entries in front of the line that starts the taking back. -/
def forwardPart (t : List Entry) : List Entry := t.takeWhile (fun x => !x.isRollingBack)

/-- The entries from the line on that starts the taking back. -/
def rollbackPart (t : List Entry) : List Entry := t.dropWhile (fun x => !x.isRollingBack)

section Parts

variable {t t' : List Entry}

theorem forwardPart_append_rollbackPart (t : List Entry) : forwardPart t ++ rollbackPart t = t :=
  List.takeWhile_append_dropWhile

theorem forwardPart_eq_self (ht : ∀ x ∈ t, x.isRollingBack = false) : forwardPart t = t :=
  List.takeWhile_eq_self_iff.2 fun x hx => by simp [ht x hx]

theorem rollbackPart_eq_nil (ht : ∀ x ∈ t, x.isRollingBack = false) : rollbackPart t = [] :=
  List.dropWhile_eq_nil_iff.2 fun x hx => by simp [ht x hx]

theorem forwardPart_append (ht : ∀ x ∈ t, x.isRollingBack = false) :
    forwardPart (t ++ .report rollingBackLine :: t') = t := by
  rw [forwardPart, List.takeWhile_append_of_pos fun x hx => by simp [ht x hx]]
  simp [Entry.isRollingBack]

theorem rollbackPart_append (ht : ∀ x ∈ t, x.isRollingBack = false) :
    rollbackPart (t ++ .report rollingBackLine :: t') = .report rollingBackLine :: t' := by
  rw [rollbackPart, List.dropWhile_append_of_pos fun x hx => by simp [ht x hx]]
  simp [Entry.isRollingBack]

end Parts

end Cutover
