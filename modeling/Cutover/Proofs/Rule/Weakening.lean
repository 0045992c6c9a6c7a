/-
**Rules that come back weaker than they were.**

A rule that was deleted is created again from its definition, and a definition has no room for some
conditions.  When changes are taken back, it is not asked whether a deleted rule has such
conditions: a run says that everything is taken back if no request of the taking back has failed
and no default rule was deleted.  Each deleted rule has then been created again from its definition,
with all of its conditions just in case none of them was beyond a definition.

Main definitions:

* `Cutover.Rule.Definition.HoldsConditions` — a definition that has all conditions of a rule;
* `Cutover.definitionsIn` — what rules were created from;
* `Cutover.Rule.Renewal` — a deleted rule, and what it was created again from.

Main results:

* `Cutover.Rule.total_failures_eq_nil` — when nothing is left that could not be taken back;
* `Cutover.Rule.update_rolledBack_iff` — **when a run says that everything is taken back**;
* `Cutover.Rule.strictRule_weakened` — a rule that comes back without one of its conditions.
-/
import Mathlib.Data.List.Forall2
import Cutover.Proofs.Rule.Accounting

set_option autoImplicit false

namespace Cutover

open Rule (Definition)

/-- What a rule was created from. -/
def Entry.definition? : Entry → Option Definition
  | .call (.createRule _ d) (.ok _) => some d
  | _ => none

/-- What rules were created from, in their order. -/
def definitionsIn (t : List Entry) : List Definition := t.filterMap Entry.definition?

@[simp] theorem definitionsIn_append (t t' : List Entry) :
    definitionsIn (t ++ t') = definitionsIn t ++ definitionsIn t' := List.filterMap_append

/-- Without requests nothing is created. -/
theorem definitionsIn_eq_nil {t : List Entry} (ht : requestsIn t = []) : definitionsIn t = [] :=
  filterMap_eq_nil_of_requestsIn (fun _ => rfl) ht

namespace Rule

variable {σ : Type}

/-! ### Conditions of deleted rules -/

/-- A definition that has all conditions of a rule. -/
structure Definition.HoldsConditions (d : Definition) (r : ListenerRule) : Prop where
  conditions : d.conditions = r.conditions
  httpHeaderName : d.httpHeaderName = r.httpHeaderName
  /-- The rule has no condition that is beyond a definition. -/
  supported : r.unsupportedConditions = []

/-- A deleted rule, and what it was created again from. -/
structure Renewal (r : ListenerRule) (d : Definition) : Prop where
  definition : r.definition? = some d
  /-- It has lost a condition just in case one was beyond a definition. -/
  complete : d.HoldsConditions r ↔ r.unsupportedConditions = []

theorem renewal_of_definition? {r : ListenerRule} {d : Definition} (hd : r.definition? = some d) :
    Renewal r d := by
  refine ⟨hd, fun h => h.supported, fun hsupported => ?_⟩
  obtain ⟨n, -, rfl⟩ := number_of_definition? hd
  exact ⟨rfl, rfl, hsupported⟩

/-! ### When nothing is left -/

section Compensations

variable {listener : String} {c : Compensation} {cs : List Compensation}

/-- Taking back one change leaves nothing if its request does not fail, and it is not about a
default rule. -/
theorem Compensation.Tried.failures_eq_nil (hc : c.Tried listener) :
    c.restored.failures = [] ↔
      failuresIn c.entries = [] ∧ ∀ r, c.undo.recreated? = some r → r.priority ≠ .default := by
  cases hc with
  | deleted arn => simp [failuresIn, Entry.failure?]
  | notDeleted arn e => simp [failuresIn, Entry.failure?]
  | recreated made hpriority => simp [failuresIn, Entry.failure?, hpriority]
  | notRecreated e hpriority => simp [failuresIn, Entry.failure?]
  | notCreatable hpriority => simp [hpriority]

/-- If nothing is left, a deleted rule has been created again from its definition. -/
theorem Compensation.Tried.renewal (hc : c.Tried listener) (hclean : c.restored.failures = []) :
    List.Forall₂ Renewal c.undo.recreated?.toList (definitionsIn c.entries) := by
  cases hc with
  | deleted arn => exact .nil
  | notDeleted arn e => cases hclean
  | @recreated r n made hpriority =>
      refine .cons (renewal_of_definition? ?_) .nil
      simp [ListenerRule.definition?, hpriority, Priority.toNat?]
  | notRecreated e hpriority => cases hclean
  | notCreatable hpriority => cases hclean

/-- The deleted rules that compensations are about. -/
def recreatedIn (cs : List Compensation) : List ListenerRule :=
  cs.flatMap (·.undo.recreated?.toList)

theorem recreatedIn_eq (cs : List Compensation) :
    recreatedIn cs = (cs.map (·.undo)).filterMap Undo.recreated? := by
  rw [recreatedIn, List.filterMap_map, List.filterMap_eq_flatMap_toList]
  rfl

/-- Nothing is left of changes just in case no request to take them back fails and no default rule
was deleted. -/
theorem total_failures_eq_nil (hcs : ∀ c ∈ cs, c.Tried listener) :
    (total cs).failures = [] ↔ failuresIn (cs.flatMap (·.entries)) = [] ∧
      ∀ r ∈ recreatedIn cs, r.priority ≠ .default := by
  induction cs with
  | nil => simp [total, failuresIn, recreatedIn]
  | cons c rest ih =>
      obtain ⟨hc, hrest⟩ := List.forall_mem_cons.1 hcs
      have hmore := ih hrest
      simp only [total, recreatedIn, List.flatMap_cons, failuresIn_append, List.append_eq_nil_iff,
        List.forall_mem_append, Option.mem_toList] at hmore ⊢
      rw [hc.failures_eq_nil, hmore]
      exact and_and_and_comm

/-- If nothing is left of changes, the deleted rules have been created again from their definitions,
one after the other. -/
theorem total_renewal (hcs : ∀ c ∈ cs, c.Tried listener) (hclean : (total cs).failures = []) :
    List.Forall₂ Renewal (recreatedIn cs) (definitionsIn (cs.flatMap (·.entries))) := by
  induction cs with
  | nil => exact .nil
  | cons c rest ih =>
      obtain ⟨hc, hrest⟩ := List.forall_mem_cons.1 hcs
      obtain ⟨hfirst, hmore⟩ := List.append_eq_nil_iff.1 hclean
      rw [List.flatMap_cons, definitionsIn_append]
      exact List.rel_append (hc.renewal hfirst) (ih hrest hmore)

end Compensations

/-! ### Whole runs -/

/-- A failure that says that everything is taken back. -/
def SaysRolledBack (e : Failure) : Prop :=
  ∃ cause byCreation byDeletion, e = .rolledBack cause byCreation byDeletion

theorem Restored.saysRolledBack_iff (done : Restored) (cause : Failure) :
    SaysRolledBack (done.failure cause) ↔ done.failures = [] := by
  rw [Restored.failure]
  split
  · rename_i hclean
    exact ⟨fun _ => List.isEmpty_iff.1 hclean, fun _ => ⟨_, _, _, rfl⟩⟩
  · rename_i hleft
    refine ⟨?_, fun hclean => absurd (List.isEmpty_iff.2 hclean) hleft⟩
    rintro ⟨_, _, _, he⟩
    cases he

section Statement

variable {config : PlatformConfig} {environment : String} {h : Host σ} {w w' : World σ}
  {e : Failure}

/-- **When a run says that everything is taken back.**  A run that fails after changes says so just
in case no request of the taking back has failed and no default rule was deleted; the conditions of
the deleted rules do not matter.  Each deleted rule has then been created again, the newest first,
and with all of its conditions just in case none of them is beyond a definition. -/
theorem update_rolledBack_iff (hrun : update config environment h w = (.failed e, w'))
    (hchanged : changesIn (forwardPart (w'.since w)) ≠ []) :
    ∃ (q : Prepared) (w₁ : World σ) (deleted : List ListenerRule),
      prepare config environment h w = (.ok q, w₁) ∧
      deletedIn (forwardPart (w'.since w)) = deleted.map (·.arn) ∧
      (∀ r ∈ deleted, r ∈ q.platform) ∧
      (SaysRolledBack e ↔ failuresIn (rollbackPart (w'.since w)) = [] ∧
        ∀ r ∈ deleted, r.priority ≠ .default) ∧
      (SaysRolledBack e →
        List.Forall₂ Renewal deleted.reverse (definitionsIn (rollbackPart (w'.since w)))) := by
  obtain ⟨q, t₀, t, t', after, p, cause, done, w₁, w₂, w₃, w₄, hq, hquiet, a, hreplay, hafter, hsince,
    rfl⟩ := update_tookBack hrun hchanged
  have hnot := not_rollingBack_forward hquiet a (quiet_stopped cause)
  rw [hsince, forwardPart_append hnot, rollbackPart_append hnot]
  obtain ⟨cs, hundos, htried, rfl, rfl⟩ := hreplay.compensations
  have hdone : Restored.plus ⟨[], [], []⟩ (total cs) = total cs := by simp [Restored.plus]
  have hdeleted : recreatedIn cs = p.changes.deleted.reverse := by
    rw [recreatedIn_eq, hundos, a.recreated_eq]
  refine ⟨q, w₁, p.changes.deleted, hq, ?_, a.deleted_platform, ?_, fun hsays => ?_⟩
  · rw [deletedIn, changesIn_between hquiet (quiet_stopped cause), ← a.deletedIn_eq, deletedIn]
  · have hback : failuresIn (.report rollingBackLine :: (cs.flatMap (·.entries) ++ after)) =
        failuresIn (cs.flatMap (·.entries)) := by
      rw [← List.singleton_append, failuresIn_append, failuresIn_append, failuresIn_eq_nil hafter,
        List.append_nil]
      rfl
    rw [hdone, Restored.saysRolledBack_iff, total_failures_eq_nil htried, hback, hdeleted]
    simp only [List.mem_reverse]
  · rw [hdone, Restored.saysRolledBack_iff] at hsays
    rw [← List.singleton_append, definitionsIn_append, definitionsIn_append,
      definitionsIn_eq_nil hafter, List.append_nil, ← hdeleted]
    exact total_renewal htried hsays

end Statement

/-! ### A rule that comes back weaker -/

/-- A platform rule with a condition that is beyond a definition. -/
def strictRule : ListenerRule :=
  ⟨"strict", .number 10000, .ofList [(hostHeader, ["web"])], none, ["query-string"],
    [.forwardTo "platform"], .ofList [(managedByTag, managedByPlatform)]⟩

open InMemory in
/-- The small account with the strict rule in place of its platform rules but one. -/
def strictAccount : InMemory.Account :=
  { smallAccount [secondDeletion] with
    rules := .ofList [("https", [{ strictRule with tags := .empty },
      ⟨"stray", .number 30000, .empty, none, [], [.forwardTo "platform"], .empty⟩])]
    tags := ((smallAccount []).tags).insert "strict" strictRule.tags }

open InMemory in
/-- A run on that account that is to delete both platform rules, of which the second stays. -/
def strictRun : Outcome Changes × World InMemory.Account :=
  update (smallConfig .copilot) "dev" (host 5) ⟨strictAccount, 0, #[]⟩

/-- The failure of that run. -/
def strictFailure : Failure := .rolledBack InMemory.secondDeletion.failure ["rule-new-1"] []

theorem strictRun_eq : strictRun = (.failed strictFailure, strictRun.2) :=
  Outcome.eq_failed (show strictRun.1.failure? = some strictFailure by decide +kernel)

/-- The entries of that run. -/
def strictEntries : List Entry := strictRun.2.since ⟨strictAccount, 0, #[]⟩

open InMemory in
theorem update_rolledBack_iff_strict :
    update (smallConfig .copilot) "dev" (host 5) ⟨strictAccount, 0, #[]⟩ =
        (.failed strictFailure, strictRun.2) ∧
      changesIn (forwardPart strictEntries) ≠ [] ∧
      ∃ deleted : List ListenerRule,
        deletedIn (forwardPart strictEntries) = deleted.map (·.arn) ∧
        List.Forall₂ Renewal deleted.reverse (definitionsIn (rollbackPart strictEntries)) := by
  have hchanged : changesIn (forwardPart strictEntries) ≠ [] := by decide +kernel
  obtain ⟨q, w₁, deleted, -, hdeleted, -, -, hrenewed⟩ :=
    update_rolledBack_iff strictRun_eq hchanged
  exact ⟨strictRun_eq, hchanged, deleted, hdeleted, hrenewed ⟨_, _, _, rfl⟩⟩

/-- The strict rule is listed and deleted, and it comes back without one of its conditions; but the
run says that everything is taken back. -/
theorem strictRule_weakened :
    strictRule ∈ strictAccount.listing "https" ∧
      strictRun = (.failed strictFailure, strictRun.2) ∧ SaysRolledBack strictFailure ∧
      deletedIn (forwardPart strictEntries) = [strictRule.arn] ∧
      ∃ d, definitionsIn (rollbackPart strictEntries) = [d] ∧ ¬ d.HoldsConditions strictRule := by
  refine ⟨by decide +kernel, strictRun_eq, ⟨_, _, _, rfl⟩, by decide +kernel, ?_⟩
  refine ⟨⟨10000, strictRule.conditions, none, strictRule.actions, strictRule.tags⟩,
    by decide +kernel, fun hholds => ?_⟩
  cases hholds.supported

end Rule

end Cutover
