/-
**What the failure of a rule update tells.**

The category of a failure tells an operator whether the listener was touched: the failure of a
rule update says that changes were taken back exactly if there were changes, and then it carries
the failure that stopped them.  Otherwise it is that failure.

Main definitions:

* `Cutover.Failure.cause?` — the failure after which changes were taken back;
* `Cutover.Rule.StoppedBy` — the failure that stopped a run.

Main results:

* `Cutover.Rule.update_failed_kind` — **the failure tells whether there were changes**.
-/
import Cutover.Proofs.InMemory.Listing
import Cutover.Proofs.Rule.Course

set_option autoImplicit false

namespace Cutover

/-- The failure after which changes were taken back. -/
def Failure.cause? : Failure → Option Failure
  | .rolledBack cause _ _ => some cause
  | .rollbackFailed cause _ _ _ => some cause
  | _ => none

namespace Rule

variable {σ : Type}

theorem kind_failure (done : Restored) (e : Failure) :
    (done.failure e).kind = .partialFailure := by
  unfold Restored.failure
  split <;> rfl

theorem cause?_failure (done : Restored) (e : Failure) :
    (done.failure e).cause? = some e := by
  unfold Restored.failure
  split <;> rfl

/-- The failure that stopped a run: that of its preparation or, if it came to its changes, the one
that follows from its last request. -/
inductive StoppedBy (config : PlatformConfig) (environment : String) (h : Host σ) (w : World σ)
    (t : List Entry) : Failure → Prop
  | preparing {e : Failure} {w' : World σ} :
      prepare config environment h w = (.failed e, w') → StoppedBy config environment h w t e
  | changing {q : Prepared} {e : Failure} {w' : World σ} :
      prepare config environment h w = (.ok q, w') → StopsWith q.platform t e →
      StoppedBy config environment h w t e

theorem StopsWith.append_reports {platform : List ListenerRule} {t lines : List Entry}
    {cause : Failure} (ht : StopsWith platform t cause) (hl : requestsIn lines = []) :
    StopsWith platform (t ++ lines) cause := by
  obtain ⟨before, r, e, after, rfl, hafter, hcause⟩ := ht
  exact ⟨before, r, e, after ++ lines, by simp, by simp [hafter, hl], hcause⟩

/-- A failure that stops changes is that of a request, or that a priority is in use. -/
theorem StopsWith.kind {platform : List ListenerRule} {t : List Entry} {cause : Failure}
    (ht : StopsWith platform t cause) (hown : ∀ e ∈ failuresIn t, e.kind ≠ .partialFailure) :
    cause.kind ≠ .partialFailure := by
  obtain ⟨before, r, e, after, rfl, -, rfl⟩ := ht
  have he : e.kind ≠ .partialFailure :=
    hown e (mem_failuresIn (r := r) (List.mem_append_right _ List.mem_cons_self))
  unfold causeOf
  split
  · split
    · simp [Failure.kind]
    · exact he
  · exact he

section Statement

variable {config : PlatformConfig} {environment : String} {h : Host σ} {w w' : World σ}
  {e : Failure}

/-- **The failure of a rule update tells whether there were changes.**  It is a partial failure
exactly if the run has created or deleted a rule before it began to take changes back; without
such a change it is the failure that stopped the run and nothing is taken back, and with one it
carries that failure. -/
theorem update_failed_kind (hrun : update config environment h w = (.failed e, w'))
    (hown : ∀ e ∈ failuresIn (w'.since w), e.kind ≠ .partialFailure) :
    (e.kind = .partialFailure ↔ changesIn (forwardPart (w'.since w)) ≠ []) ∧
      ∃ stop, StoppedBy config environment h w (forwardPart (w'.since w)) stop ∧
        (changesIn (forwardPart (w'.since w)) = [] →
          e = stop ∧ rollbackPart (w'.since w) = []) ∧
        (changesIn (forwardPart (w'.since w)) ≠ [] → e.cause? = some stop) := by
  obtain ⟨t, c⟩ := update_course config environment h w
  rw [hrun] at c
  rw [c.path.since_eq] at hown ⊢
  cases c with
  | refused hq _ hquiet hfail =>
      have hforward := forwardPart_eq_self hquiet.not_rollingBack
      have hkind : e.kind ≠ .partialFailure :=
        hfail.elim id fun ⟨r, hr⟩ => hown e (mem_failuresIn hr)
      rw [hforward, rollbackPart_eq_nil hquiet.not_rollingBack, hquiet.changesIn]
      exact ⟨by simp [hkind], e, .preparing hq, by simp, by simp⟩
  | stopped hq _ hquiet _ a hstop huntouched =>
      have hnot := not_rollingBack_stopped hquiet a
      have hkind := (hstop.append _).kind hown
      rw [forwardPart_eq_self hnot, rollbackPart_eq_nil hnot, changesIn_append, hquiet.changesIn,
        a.isUntouched_iff.1 huntouched]
      exact ⟨by simp [hkind], e, .changing hq (hstop.append _), by simp, by simp⟩
  | @tookBack q t₀ t t' lines p cause done w₁ w₂ w₃ _ hq _ hquiet _ a hstop htouched _ _ _ _ =>
      have hnot := not_rollingBack_forward hquiet a (quiet_stopped cause)
      have hchanged : changesIn t ≠ [] := fun hnil => by
        simp [a.isUntouched_iff.2 hnil] at htouched
      rw [forwardPart_append hnot, changesIn_between hquiet (quiet_stopped cause)]
      refine ⟨by simp [kind_failure, hchanged], cause, .changing hq ?_, by simp [hchanged],
        fun _ => cause?_failure done cause⟩
      exact (hstop.append_reports (by simp)).append t₀

end Statement

open InMemory in
/-- A run on the small account that is stopped behind its first changes says so. -/
theorem update_failed_kind_small : ∃ e w',
    update (smallConfig .platform) "dev" (host 5) (smallWorld [secondDeletion]) = (.failed e, w') ∧
    (∀ e ∈ failuresIn (w'.since (smallWorld [secondDeletion])), e.kind ≠ .partialFailure) ∧
    (e.kind = .partialFailure ↔
      changesIn (forwardPart (w'.since (smallWorld [secondDeletion]))) ≠ []) := by
  have hrun := Outcome.eq_failed (show (update (smallConfig .platform) "dev" (host 5)
    (smallWorld [secondDeletion])).1.failure? =
      some (.rolledBack secondDeletion.failure ["rule-new-2"] ["rule-new-1"]) by decide +kernel)
  have hown : ∀ e ∈ failuresIn ((update (smallConfig .platform) "dev" (host 5)
      (smallWorld [secondDeletion])).2.since (smallWorld [secondDeletion])),
      e.kind ≠ .partialFailure := by
    decide +kernel
  exact ⟨_, _, hrun, hown, (update_failed_kind hrun hown).1⟩

end Rule

end Cutover
