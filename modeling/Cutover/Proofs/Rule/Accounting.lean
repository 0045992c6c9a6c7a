/-
**What a rollback accounts for.**

Taking changes back goes on after a failure.  Each change is tried once, the newest first, and comes
to one thing: a rule that was created is deleted, a rule that was deleted is created again, or there
is a text that says why not.  So what a run fails with accounts for every change that it has made,
and says whether all of them are taken back.

Main definitions:

* `Cutover.Rule.Compensation` — how one change was taken back, and what that comes to;
* `Cutover.Rule.Compensation.Tried` — the ways in which that can go;
* `Cutover.Rule.total` — what compensations come to.

Main results:

* `Cutover.Rule.Replay.compensations` — changes are taken back one by one in their order;
* `Cutover.Rule.length_total` — every compensation counts once;
* `Cutover.Rule.update_accounts` — **a rollback accounts for every change**.
-/
import Cutover.Proofs.InMemory.Listing
import Cutover.Proofs.Rule.Course

set_option autoImplicit false

namespace Cutover.Rule

variable {σ : Type}

/-! ### One change -/

/-- How one change was taken back: the record of it, the entries, and what they come to. -/
structure Compensation where
  undo : Undo
  entries : List Entry
  restored : Restored

/-- The ways in which taking back one change can go. -/
inductive Compensation.Tried (listener : String) : Compensation → Prop
  /-- A created rule is deleted by its name. -/
  | deleted (arn : String) :
      Tried listener ⟨.delete arn, [.call (.deleteRule arn) (.ok ())], ⟨[], [arn], []⟩⟩
  | notDeleted (arn : String) (e : Failure) :
      Tried listener ⟨.delete arn, [.call (.deleteRule arn) (.error e)],
        ⟨[], [], ["Failed to delete rule " ++ arn ++ " during rollback: " ++ e.message]⟩⟩
  /-- A deleted rule with a number is created as it was. -/
  | recreated {r : ListenerRule} {n : Nat} (made : ListenerRule) : r.priority = .number n →
      Tried listener ⟨.recreate r,
        [.call (.createRule listener ⟨n, r.conditions, r.httpHeaderName, r.actions, r.tags⟩)
          (.ok made)], ⟨[made.arn], [], []⟩⟩
  | notRecreated {r : ListenerRule} {n : Nat} (e : Failure) : r.priority = .number n →
      Tried listener ⟨.recreate r,
        [.call (.createRule listener ⟨n, r.conditions, r.httpHeaderName, r.actions, r.tags⟩)
          (.error e)],
        ⟨[], [], ["Failed to recreate rule " ++ r.arn ++ " during rollback: " ++ e.message]⟩⟩
  /-- The default rule cannot be created, and nothing is asked for it. -/
  | notCreatable {r : ListenerRule} : r.priority = .default →
      Tried listener ⟨.recreate r, [],
        ⟨[], [], ["Failed to recreate rule " ++ r.arn ++
          " during rollback: default rules cannot be created"]⟩⟩

namespace Compensation.Tried

variable {listener : String} {c : Compensation}

/-- A compensation comes to one thing. -/
theorem length_eq (hc : c.Tried listener) :
    c.restored.byCreation.length + c.restored.byDeletion.length + c.restored.failures.length =
      1 := by
  cases hc <;> rfl

theorem createdIn_eq (hc : c.Tried listener) : createdIn c.entries = c.restored.byCreation := by
  cases hc with
  | deleted | recreated _ _ | notCreatable _ => rfl
  | notDeleted | notRecreated _ _ => simp

theorem deletedIn_eq (hc : c.Tried listener) : deletedIn c.entries = c.restored.byDeletion := by
  cases hc with
  | deleted | recreated _ _ | notCreatable _ => rfl
  | notDeleted | notRecreated _ _ => simp

end Compensation.Tried

/-! ### All changes -/

/-- What compensations come to. -/
def total (cs : List Compensation) : Restored where
  byCreation := cs.flatMap (·.restored.byCreation)
  byDeletion := cs.flatMap (·.restored.byDeletion)
  failures := cs.flatMap (·.restored.failures)

/-- What was restored before, and then what compensations come to. -/
def Restored.plus (done more : Restored) : Restored where
  byCreation := done.byCreation ++ more.byCreation
  byDeletion := done.byDeletion ++ more.byDeletion
  failures := done.failures ++ more.failures

section Total

variable {listener : String} {cs : List Compensation}

/-- Every compensation counts once. -/
theorem length_total (hcs : ∀ c ∈ cs, c.Tried listener) :
    (total cs).byCreation.length + (total cs).byDeletion.length + (total cs).failures.length =
      cs.length := by
  induction cs with
  | nil => rfl
  | cons c rest ih =>
      have hone := (hcs c List.mem_cons_self).length_eq
      have hrest := ih fun c' hc' => hcs c' (List.mem_cons_of_mem _ hc')
      simp only [total, List.flatMap_cons, List.length_append, List.length_cons] at hrest ⊢
      omega

/-- The rules that were created again are those that the entries show as created. -/
theorem createdIn_total (hcs : ∀ c ∈ cs, c.Tried listener) :
    createdIn (cs.flatMap (·.entries)) = (total cs).byCreation := by
  induction cs with
  | nil => rfl
  | cons c rest ih =>
      have hrest := ih fun c' hc' => hcs c' (List.mem_cons_of_mem _ hc')
      simp only [total, List.flatMap_cons, createdIn_append] at hrest ⊢
      rw [(hcs c List.mem_cons_self).createdIn_eq, hrest]

theorem deletedIn_total (hcs : ∀ c ∈ cs, c.Tried listener) :
    deletedIn (cs.flatMap (·.entries)) = (total cs).byDeletion := by
  induction cs with
  | nil => rfl
  | cons c rest ih =>
      have hrest := ih fun c' hc' => hcs c' (List.mem_cons_of_mem _ hc')
      simp only [total, List.flatMap_cons, deletedIn_append] at hrest ⊢
      rw [(hcs c List.mem_cons_self).deletedIn_eq, hrest]

end Total

/-! ### Taking back -/

theorem number_of_definition? {r : ListenerRule} {d : Definition} (hd : r.definition? = some d) :
    ∃ n, r.priority = .number n ∧ d = ⟨n, r.conditions, r.httpHeaderName, r.actions, r.tags⟩ := by
  rw [ListenerRule.definition?] at hd
  cases hpriority : r.priority with
  | default =>
      rw [hpriority] at hd
      cases hd
  | number n =>
      rw [hpriority] at hd
      cases hd
      exact ⟨n, rfl, rfl⟩

theorem default_of_definition? {r : ListenerRule} (hd : r.definition? = none) :
    r.priority = .default := by
  rw [ListenerRule.definition?] at hd
  cases hpriority : r.priority with
  | default => rfl
  | number n =>
      rw [hpriority] at hd
      cases hd

section Replaying

variable {h : Host σ} {listener : String} {done done' : Restored} {w w' : World σ}
  {t : List Entry} {undos : List Undo}

/-- One change is taken back in one of the ways, whatever the host answers. -/
theorem PlaysBack.compensation {u : Undo} (b : PlaysBack h listener done w u t done' w') :
    ∃ restored, Compensation.Tried listener ⟨u, t, restored⟩ ∧ done' = done.plus restored := by
  cases b with
  | @deleted arn _ => exact ⟨_, .deleted arn, by simp [Restored.plus]⟩
  | @notDeleted arn e _ => exact ⟨_, .notDeleted arn e, by simp [Restored.plus]⟩
  | @recreated r made _ hd _ =>
      obtain ⟨n, hpriority, rfl⟩ := number_of_definition? hd
      exact ⟨_, .recreated made hpriority, by simp [Restored.plus]⟩
  | @notRecreated r _ e hd _ =>
      obtain ⟨n, hpriority, rfl⟩ := number_of_definition? hd
      exact ⟨_, .notRecreated e hpriority, by simp [Restored.plus]⟩
  | notCreatable hd =>
      exact ⟨_, .notCreatable (default_of_definition? hd), by simp [Restored.plus]⟩

/-- Changes are taken back one by one in their order. -/
theorem Replay.compensations (b : Replay h listener done w undos t done' w') :
    ∃ cs : List Compensation, cs.map (·.undo) = undos ∧ (∀ c ∈ cs, c.Tried listener) ∧
      t = cs.flatMap (·.entries) ∧ done' = done.plus (total cs) := by
  induction b with
  | nil done w => exact ⟨[], rfl, by simp, rfl, by simp [Restored.plus, total]⟩
  | @cons _ _ _ _ _ _ u rest t t' hone _ ih =>
      obtain ⟨cs, hundos, htried, hentries, hdone⟩ := ih
      obtain ⟨restored, hfirst, hdone₁⟩ := hone.compensation
      refine ⟨⟨u, t, restored⟩ :: cs, by rw [List.map_cons, hundos], ?_, ?_, ?_⟩
      · simpa using ⟨hfirst, htried⟩
      · rw [List.flatMap_cons, hentries]
      · rw [hdone, hdone₁]
        simp [Restored.plus, total]

end Replaying

/-! ### Whole runs -/

section Statement

variable {config : PlatformConfig} {environment : String} {h : Host σ} {w w' : World σ}
  {e : Failure}

/-- **A rollback accounts for every change.**  A run that fails after changes takes each of them
back once, the newest first and whether or not others could be taken back; besides this it asks
nothing.  A created rule is deleted by its name; a deleted rule is created as the run has found it,
if it has a number, and otherwise nothing is asked for it.  Every change is in one list of the
failure: with the rules that were created again, with those that were deleted, or with a text.  The
failure says that all changes are taken back just if there is no such text. -/
theorem update_accounts (hrun : update config environment h w = (.failed e, w'))
    (hchanged : changesIn (forwardPart (w'.since w)) ≠ []) :
    ∃ (q : Prepared) (w₁ : World σ) (cs : List Compensation) (after : List Entry)
      (cause : Failure),
      prepare config environment h w = (.ok q, w₁) ∧
      cs.map (·.undo.change) = (changesIn (forwardPart (w'.since w))).reverse ∧
      (∀ c ∈ cs, c.Tried q.listener ∧ ∀ r, c.undo = .recreate r → r ∈ q.platform) ∧
      rollbackPart (w'.since w) =
        .report rollingBackLine :: (cs.flatMap (·.entries) ++ after) ∧
      requestsIn after = [] ∧
      (total cs).byCreation = createdIn (rollbackPart (w'.since w)) ∧
      (total cs).byDeletion = deletedIn (rollbackPart (w'.since w)) ∧
      (total cs).byCreation.length + (total cs).byDeletion.length + (total cs).failures.length =
        (changesIn (forwardPart (w'.since w))).length ∧
      ((total cs).failures = [] ∧
          e = .rolledBack cause (total cs).byCreation (total cs).byDeletion ∨
        (total cs).failures ≠ [] ∧
          e = .rollbackFailed cause (total cs).failures (total cs).byCreation
            (total cs).byDeletion) := by
  obtain ⟨t, c⟩ := update_course config environment h w
  rw [hrun] at c
  rw [c.path.since_eq] at hchanged ⊢
  cases c with
  | refused _ _ hquiet _ =>
      rw [forwardPart_eq_self hquiet.not_rollingBack, hquiet.changesIn] at hchanged
      exact absurd rfl hchanged
  | stopped _ _ hquiet _ a _ huntouched =>
      rw [forwardPart_eq_self (not_rollingBack_stopped hquiet a), changesIn_append,
        hquiet.changesIn, a.isUntouched_iff.1 huntouched] at hchanged
      exact absurd rfl hchanged
  | @tookBack q t₀ t t' after p cause done w₁ w₂ w₃ _ hq _ hquiet _ a _ _ hreplay _ _ hafter =>
      have hnot := not_rollingBack_forward hquiet a (quiet_stopped cause)
      have hforward := changesIn_between (t := t) hquiet (quiet_stopped cause)
      obtain ⟨cs, hundos, htried, rfl, rfl⟩ := hreplay.compensations
      rw [forwardPart_append hnot, rollbackPart_append hnot, hforward]
      have hchanges : cs.map (·.undo.change) = (changesIn t).reverse := by
        rw [← a.changes_eq, ← hundos, List.map_map]
        rfl
      have hnone := changesIn_of_requestsIn hafter
      refine ⟨q, w₁, cs, after, cause, hq, hchanges, fun c hc => ⟨htried c hc, fun r hr => ?_⟩, rfl,
        hafter, ?_, ?_, ?_, ?_⟩
      · -- what is created again is what was deleted
        have hdeleted : r ∈ p.undos.filterMap Undo.recreated? :=
          List.mem_filterMap.2 ⟨c.undo, hundos ▸ List.mem_map.2 ⟨c, hc, rfl⟩, by rw [hr]; rfl⟩
        rw [a.recreated_eq, List.mem_reverse] at hdeleted
        exact a.deleted_platform r hdeleted
      · rw [← List.singleton_append, createdIn_append, createdIn_append, createdIn_total htried]
        simp [createdIn, hnone]
      · rw [← List.singleton_append, deletedIn_append, deletedIn_append, deletedIn_total htried]
        simp [deletedIn, hnone]
      · have hcount := congrArg List.length hchanges
        rw [List.length_map, List.length_reverse] at hcount
        rw [length_total htried, hcount]
      · have hdone : Restored.plus ⟨[], [], []⟩ (total cs) = total cs := by simp [Restored.plus]
        rw [hdone, Restored.failure]
        by_cases hclean : (total cs).failures = []
        · exact .inl ⟨hclean, by rw [hclean]; rfl⟩
        · exact .inr ⟨hclean, by rw [if_neg (by simpa using hclean)]⟩

end Statement

open InMemory in
/-- The second deletion of a run is refused, and then the third creation, which is the one that
would take back the first deletion. -/
def twoFaults : List Fault :=
  [secondDeletion, ⟨"create_rule", 3, .aws "CreateRule" (some "Throttling") "slow down"⟩]

open InMemory in
/-- A run on the small account that cannot take all changes back says so. -/
theorem update_accounts_small : ∃ e w',
    update (smallConfig .platform) "dev" (host 5) (smallWorld twoFaults) = (.failed e, w') ∧
    changesIn (forwardPart (w'.since (smallWorld twoFaults))) ≠ [] ∧
    ∃ (cs : List Compensation) (cause : Failure),
      cs.map (·.undo.change) =
        (changesIn (forwardPart (w'.since (smallWorld twoFaults)))).reverse ∧
      (total cs).failures ≠ [] ∧
      e = .rollbackFailed cause (total cs).failures (total cs).byCreation
        (total cs).byDeletion := by
  have hrun := Outcome.eq_failed (show (update (smallConfig .platform) "dev" (host 5)
    (smallWorld twoFaults)).1.failure? = some (.rollbackFailed secondDeletion.failure
      ["Failed to recreate rule old during rollback: AWS error calling CreateRule: slow down"] []
      ["rule-new-1"]) by decide +kernel)
  have hchanged : changesIn (forwardPart ((update (smallConfig .platform) "dev" (host 5)
      (smallWorld twoFaults)).2.since (smallWorld twoFaults))) ≠ [] := by
    decide +kernel
  obtain ⟨q, w₁, cs, after, cause, -, hchanges, -, -, -, -, -, -, hends⟩ :=
    update_accounts hrun hchanged
  refine ⟨_, _, hrun, hchanged, cs, cause, hchanges, ?_⟩
  rcases hends with ⟨-, he⟩ | hends
  · cases he
  · exact hends

end Cutover.Rule
