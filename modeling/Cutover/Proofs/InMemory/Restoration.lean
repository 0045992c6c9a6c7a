/-
**A failed rule update restores the listener.**

Whatever request of a rule update is made to fail, and with whatever failure: if the run has
changed anything and nothing is in the way of its taking back, then the listener ends with the
rules that it had.  Those that were not deleted are untouched, those that were are back under new
names, and nothing that the run has created is left.

Main results:

* `Cutover.InMemory.listing_takenBack` — what is left where changes are taken back;
* `Cutover.InMemory.update_restores` — **taking back restores the listener**.
-/
import Cutover.Proofs.InMemory.Revertible

set_option autoImplicit false

namespace Cutover.InMemory

open Rule InMemory.Account

variable {config : PlatformConfig} {environment : String} {rounds : Nat} {q : Prepared}
  {w w₁ w' : World Account} {e : Failure}

/-- If no fault hits a request behind the changes of a run, the taking back is spared. -/
theorem spares_behind {w₂ w₃ : World Account} {t t' rest : List Entry}
    (hforward : Path (host rounds) w t w₂) (hback : Path (host rounds) w₂ t' w₃)
    (hspared : ∀ f ∈ w.state.faults,
      f.number ≤ w.state.numberOf f.request + callsIn f.request t ∨
      w.state.numberOf f.request + callsIn f.request (t ++ (t' ++ rest)) < f.number) :
    Spares w₂.state w₃.state := by
  intro f hf
  rw [(path_later hforward).faults] at hf
  rw [path_numberOf hback, path_numberOf hforward]
  refine (hspared f hf).imp id fun hlt => ?_
  simp only [callsIn_append] at hlt
  omega

section TakenBack

variable {t₀ t t' lines : List Entry} {p : Progress} {cause : Failure} {done : Restored}
  {w₂ w₃ : World Account}

/-- What a prepared run has deleted are platform rules of the listing. -/
theorem deleted_mem (hq : prepare config environment (host rounds) w = (.ok q, w₁))
    (hord : w.state.Orderly q.listener) (a : Advance (host rounds) q w₁ t p w₂) :
    ∀ r ∈ p.changes.deleted, r ∈ w.state.listing q.listener ∧ r.owner = .platform := by
  intro r hr
  rw [← (prepare_listing hq hord).1]
  exact mem_platform.1 (a.deleted_platform r hr)

/-- Where the changes of a run are taken back and no fault hits a request for that, none of these
requests fails, and the listing has what was not deleted and copies of what was. -/
theorem listing_takenBack (hq : prepare config environment (host rounds) w = (.ok q, w₁))
    (hord : w.state.Orderly q.listener)
    (hnumber : ∀ r ∈ w.state.listing q.listener, r.owner = .platform → ∃ n, r.priority = .number n)
    (hpath : Path (host rounds) w t₀ w₁) (a : Advance (host rounds) q w₁ t p w₂)
    (b : Replay (host rounds) q.listener ⟨[], [], []⟩ (backFrom w₂ cause) p.undos t' done w₃)
    (hspared : ∀ f ∈ w.state.faults,
      f.number ≤ w.state.numberOf f.request +
        callsIn f.request (t₀ ++ (t ++ [.report (stoppedLine cause)])) ∨
      w.state.numberOf f.request + callsIn f.request
        (t₀ ++ (t ++ [.report (stoppedLine cause)]) ++ .report rollingBackLine :: (t' ++ lines)) <
          f.number) :
    failuresIn t' = [] ∧ done.failures = [] ∧ ∃ restored,
      w₃.state.listing q.listener =
        besides (p.changes.deleted.map (·.arn)) (w.state.listing q.listener) ++ restored ∧
      List.Forall₂ (fun r copy => r.IsCopy copy ∧
        ∀ x ∈ w.state.listing q.listener, x.arn ≠ copy.arn) p.changes.deleted.reverse restored ∧
      ∀ arn, .delete arn ∈ p.undos → ∀ x ∈ w₃.state.listing q.listener, x.arn ≠ arn := by
  obtain ⟨hrules, hsame, -⟩ := prepare_listing hq hord
  have hlisting := congrFun hsame.listing q.listener
  have hstanding := advance_standing (hrules.trans hlisting.symm) (hord.same hsame) a
  have hto := hpath.trans (a.path.trans (.line _ _ (stoppedLine cause)))
  have hfrom := (Path.line _ _ rollingBackLine).trans b.path
  have hspares := spares_behind hto hfrom hspared
  have hnumbers : ∀ r ∈ p.undos.filterMap Undo.recreated?, ∃ n, r.priority = .number n := by
    intro r hr
    rw [a.recreated_eq] at hr
    obtain ⟨hmem, howner⟩ := deleted_mem hq hord a r (List.mem_reverse.1 hr)
    exact hnumber r hmem howner
  obtain ⟨hfail, hdone, restored, m⟩ := replay_midway hstanding.revertible b hstanding.midway
    hnumbers hspares
  rw [a.recreated_eq, List.nil_append] at m
  obtain ⟨hcopies, hgone⟩ := hstanding.takenBack (hord.same hsame) m
  rw [hlisting] at hcopies
  have hfinal := m.listing
  rw [List.map_reverse, besides_reverse, hlisting] at hfinal
  exact ⟨hfail, hdone, restored, hfinal, hcopies, hgone⟩

end TakenBack

/-- **Taking back restores the listener.**  Let a rule update of an orderly account, whose platform
rules have numbers, fail after it has created or deleted a rule, and let no fault of the account
hit a request behind these changes.  Then no request of the taking back fails, and the run fails
as rolled back.  The listener has the rules that were not deleted, as they were; behind them, a
copy under a new name of every rule that was; and no rule that the run has created. -/
theorem update_restores
    (hq : prepare config environment (host rounds) w = (.ok q, w₁))
    (hrun : update config environment (host rounds) w = (.failed e, w'))
    (hord : w.state.Orderly q.listener)
    (hnumber : ∀ r ∈ w.state.listing q.listener, r.owner = .platform → ∃ n, r.priority = .number n)
    (hchanged : changesIn (forwardPart (w'.since w)) ≠ [])
    (hspared : ∀ f ∈ w.state.faults,
      f.number ≤ w.state.numberOf f.request + callsIn f.request (forwardPart (w'.since w)) ∨
      w.state.numberOf f.request + callsIn f.request (w'.since w) < f.number) :
    (∃ cause byCreation byDeletion, e = .rolledBack cause byCreation byDeletion) ∧
    failuresIn (rollbackPart (w'.since w)) = [] ∧
    ∃ deleted restored : List ListenerRule,
      deleted.map (·.arn) = deletedIn (forwardPart (w'.since w)) ∧
      (∀ r ∈ deleted, r ∈ w.state.listing q.listener ∧ r.owner = .platform) ∧
      w'.state.listing q.listener =
        besides (deletedIn (forwardPart (w'.since w))) (w.state.listing q.listener) ++ restored ∧
      List.Forall₂ (fun r copy => r.IsCopy copy ∧
        ∀ x ∈ w.state.listing q.listener, x.arn ≠ copy.arn) deleted.reverse restored ∧
      ∀ arn ∈ createdIn (forwardPart (w'.since w)),
        ∀ x ∈ w'.state.listing q.listener, x.arn ≠ arn := by
  obtain ⟨t, c⟩ := update_course config environment (host rounds) w
  rw [hrun] at c
  rw [c.path.since_eq] at hchanged hspared ⊢
  cases c with
  -- only a run that has changed something and was stopped meets the assumptions
  | refused hq' _ _ _ => cases hq.symm.trans hq'
  | stopped _ _ hquiet _ a _ huntouched =>
      rw [forwardPart_eq_self (not_rollingBack_stopped hquiet a), changesIn_append,
        hquiet.changesIn, a.isUntouched_iff.1 huntouched] at hchanged
      exact absurd rfl hchanged
  | @tookBack q' t₀ t t' lines p cause done w₁' w₂ w₃ _ hq' hpath hquiet _ a _ _ hreplay hstate _
      hlines =>
      obtain ⟨rfl, rfl⟩ : q' = q ∧ w₁' = w₁ := by
        cases hq.symm.trans hq'
        exact ⟨rfl, rfl⟩
      have hnot := not_rollingBack_forward hquiet a (quiet_stopped cause)
      rw [forwardPart_append hnot] at hspared ⊢
      rw [rollbackPart_append hnot]
      obtain ⟨hfail, hdone, restored, hlisting, hcopies, hgone⟩ :=
        listing_takenBack hq hord hnumber hpath a hreplay hspared
      have hchanges := changesIn_between (t := t) hquiet (quiet_stopped cause)
      have hdeleted : deletedIn (t₀ ++ (t ++ [.report (stoppedLine cause)])) =
          p.changes.deleted.map (·.arn) := by
        rw [← a.deletedIn_eq, deletedIn, hchanges]
        rfl
      refine ⟨⟨_, _, _, failure_rolledBack hdone cause⟩, ?_, p.changes.deleted, restored,
        hdeleted.symm, deleted_mem hq hord a, ?_, hcopies, fun arn harn => ?_⟩
      · have hreports : failuresIn lines = [] := failuresIn_eq_nil hlines
        rw [← List.singleton_append, failuresIn_append, failuresIn_append, hfail, hreports]
        rfl
      · rw [hstate, hlisting, hdeleted]
      · rw [createdIn, hchanges] at harn
        rw [hstate]
        exact hgone arn (a.mem_createdIn.2 harn)

/-- On the small account, a rule takes the place of another, the second deletion is refused, and
the listener is restored. -/
theorem update_restores_small : ∃ e w',
    update (smallConfig .platform) "dev" (host 5) (smallWorld [secondDeletion]) = (.failed e, w') ∧
    (∃ cause byCreation byDeletion, e = .rolledBack cause byCreation byDeletion) ∧
    failuresIn (rollbackPart (w'.since (smallWorld [secondDeletion]))) = [] := by
  have hfound : ((prepare (smallConfig .platform) "dev" (host 5)
      (smallWorld [secondDeletion])).1.value?.map (·.listener)) = some "https" := by
    decide +kernel
  have hrun := Outcome.eq_failed (show (update (smallConfig .platform) "dev" (host 5)
    (smallWorld [secondDeletion])).1.failure? =
      some (.rolledBack secondDeletion.failure ["rule-new-2"] ["rule-new-1"]) by decide +kernel)
  have hchanged : changesIn (forwardPart ((update (smallConfig .platform) "dev" (host 5)
      (smallWorld [secondDeletion])).2.since (smallWorld [secondDeletion]))) ≠ [] := by
    decide +kernel
  have hcalls : callsIn "delete_rule" (forwardPart ((update (smallConfig .platform) "dev" (host 5)
      (smallWorld [secondDeletion])).2.since (smallWorld [secondDeletion]))) = 2 := by
    decide +kernel
  obtain ⟨q, hvalue, hlistener : q.listener = "https"⟩ := Option.map_eq_some_iff.1 hfound
  have hq := Outcome.eq_ok hvalue
  have hnumber : ∀ r ∈ (smallAccount [secondDeletion]).listing q.listener, r.owner = .platform →
      ∃ n, r.priority = .number n := by
    intro r hr _
    rw [hlistener] at hr
    exact smallAccount_numbered _ r hr
  generalize (update (smallConfig .platform) "dev" (host 5) (smallWorld [secondDeletion])).2 = w'
    at hrun hchanged hcalls
  -- the fault hits a request of the changes, and none behind them
  have hspared : ∀ f ∈ [secondDeletion], f.number ≤
      (smallAccount [secondDeletion]).numberOf f.request +
        callsIn f.request (forwardPart (w'.since (smallWorld [secondDeletion]))) ∨
      (smallAccount [secondDeletion]).numberOf f.request +
        callsIn f.request (w'.since (smallWorld [secondDeletion])) < f.number := by
    intro f hf
    rw [List.mem_singleton.1 hf, show secondDeletion.request = "delete_rule" from rfl, hcalls]
    exact .inl (by decide)
  obtain ⟨hrolled, hfail, -⟩ := update_restores hq hrun (hlistener ▸ smallAccount_orderly _)
    hnumber hchanged hspared
  exact ⟨_, w', hrun, hrolled, hfail⟩

end Cutover.InMemory
