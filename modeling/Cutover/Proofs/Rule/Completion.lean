/-
**What a rule update has done when its changes do not stop.**

A run whose changes have not stopped has made all of them: each planned rule is created, in the
order of the plan, and each platform rule that was there is deleted.  It does not matter which of
the creations were refused at first, and which of the deletions made way for one of them.

Main definitions:

* `Cutover.Rule.Made` — a rule that a host has created for a planned one.

Main results:

* `Cutover.Rule.createAll_completed`, `Cutover.Rule.deleteRemaining_completed`,
  `Cutover.Rule.deleteAll_completed` — the parts of a run that have not stopped;
* `Cutover.Rule.Prepared.apply_completed` — **all changes are made**.
-/
import Cutover.Proofs.Rule.Advance

set_option autoImplicit false

namespace Cutover.Rule

variable {σ : Type} {h : Host σ} {listener : String} {platform rules : List ListenerRule}
  {w w' : World σ} {p p' : Progress}

/-- A rule that a host has created for a planned one. -/
def Made (h : Host σ) (listener : String) (rule : Planned) (r : ListenerRule) : Prop :=
  ∃ s, (h.answer (.createRule listener rule.definition) s).result = .ok r

/-- The names of the rules that are deleted. -/
def Progress.gone (p : Progress) : List String := p.changes.deleted.map (·.arn)

@[simp] theorem Progress.gone_addDeleted (p : Progress) (r : ListenerRule) :
    (p.addDeleted r).gone = p.gone ++ [r.arn] := by
  simp [Progress.gone, Progress.addDeleted]

/-! ### Single changes -/

/-- If two parts have not stopped, then neither has the first. -/
theorem andThen_eq_ok {s s' : Step σ} (hrun : andThen s s' p h w = (.ok (p', none), w')) :
    ∃ p₁ w₁, s p h w = (.ok (p₁, none), w₁) ∧ s' p₁ h w₁ = (.ok (p', none), w') := by
  obtain ⟨⟨p₁, stop⟩, w₁, hs, hrest⟩ := Run.bind_eq_ok hrun
  cases stop with
  | none => exact ⟨p₁, w₁, hs, hrest⟩
  | some e => cases hrest

theorem create_completed {rule : Planned}
    (hrun : create listener rule.definition p h w = (.ok (p', none), w')) :
    ∃ r, p' = p.addCreated r ∧ Made h listener rule r := by
  rcases create_cases listener rule.definition p h w with ⟨r, hx, hmade⟩ | ⟨e, -, hrefused⟩
  · cases hrun.symm.trans hmade
    exact ⟨r, rfl, _, hx⟩
  · cases hrun.symm.trans hrefused

theorem delete_completed {r : ListenerRule} (hrun : delete r p h w = (.ok (p', none), w')) :
    p' = p.addDeleted r := by
  rcases delete_cases r p h w with ⟨-, hmade⟩ | ⟨e, -, hrefused⟩
  · cases hrun.symm.trans hmade
    rfl
  · cases hrun.symm.trans hrefused

theorem deleteReported_completed {r : ListenerRule}
    (hrun : deleteReported r p h w = (.ok (p', none), w')) : p' = p.addDeleted r := by
  obtain ⟨⟨⟩, w₁, -, hdelete⟩ := Run.bind_eq_ok hrun
  exact delete_completed hdelete

/-! ### Creation of planned rules -/

/-- A planned rule is created, whether or not another one had to go first. -/
theorem createReplacing_completed {rule : Planned}
    (hrun : createReplacing listener platform rule p h w = (.ok (p', none), w')) :
    ∃ r, p'.changes.created = p.changes.created ++ [r] ∧ Made h listener rule r := by
  rcases create_cases listener rule.definition p h w with ⟨r, hx, hmade⟩ | ⟨e, -, hrefused⟩
  · cases hrun.symm.trans (createReplacing_created hmade)
    exact ⟨r, rfl, _, hx⟩
  rw [createReplacing_refused hrefused] at hrun
  split at hrun
  · split at hrun
    · cases hrun
    · obtain ⟨p₁, w₁, hdelete, hcreate⟩ := andThen_eq_ok hrun
      obtain rfl := delete_completed hdelete
      obtain ⟨r, rfl, hmade⟩ := create_completed hcreate
      exact ⟨r, rfl, hmade⟩
  · cases hrun

/-- All planned rules are created, in their order. -/
theorem createAll_completed {planned : List Planned}
    (hrun : createAll listener platform planned p h w = (.ok (p', none), w')) :
    ∃ made, p'.changes.created = p.changes.created ++ made ∧
      List.Forall₂ (Made h listener) planned made := by
  induction planned generalizing p w with
  | nil =>
      cases hrun
      exact ⟨[], by simp, .nil⟩
  | cons rule rest ih =>
      obtain ⟨⟨⟩, w₀, -, hparts⟩ := Run.bind_eq_ok hrun
      obtain ⟨p₁, w₁, hone, hrest⟩ := andThen_eq_ok hparts
      obtain ⟨r, hcreated, hr⟩ := createReplacing_completed hone
      obtain ⟨made, hmore, hmade⟩ := ih hrest
      exact ⟨r :: made, by rw [hmore, hcreated, List.append_assoc, List.singleton_append],
        .cons hr hmade⟩

/-! ### Deletion of platform rules -/

/-- All rules are deleted then, those that were deleted before and the others. -/
theorem deleteRemaining_completed
    (hrun : deleteRemaining rules p h w = (.ok (p', none), w')) :
    p'.changes.created = p.changes.created ∧
      ∀ arn, arn ∈ p.gone ∨ arn ∈ rules.map (·.arn) → arn ∈ p'.gone := by
  induction rules generalizing p w with
  | nil =>
      cases hrun
      exact ⟨rfl, by simp⟩
  | cons r rest ih =>
      rw [deleteRemaining_cons] at hrun
      split at hrun
      · rename_i hgone
        obtain ⟨hcreated, hall⟩ := ih hrun
        have hr : r.arn ∈ p.gone := by
          obtain ⟨d, hd, heq⟩ := List.any_eq_true.1 hgone
          exact List.mem_map.2 ⟨d, hd, beq_iff_eq.1 heq⟩
        refine ⟨hcreated, fun arn harn => hall arn ?_⟩
        rcases harn with harn | harn
        · exact .inl harn
        · rcases List.mem_cons.1 harn with rfl | harn
          · exact .inl hr
          · exact .inr harn
      · obtain ⟨p₁, w₁, hone, hrest⟩ := andThen_eq_ok hrun
        obtain rfl := deleteReported_completed hone
        obtain ⟨hcreated, hall⟩ := ih hrest
        refine ⟨hcreated, fun arn harn => hall arn ?_⟩
        simp only [Progress.gone_addDeleted, List.mem_append, List.mem_singleton]
        rcases harn with harn | harn
        · exact .inl (.inl harn)
        · rcases List.mem_cons.1 harn with rfl | harn
          · exact .inl (.inr rfl)
          · exact .inr harn

theorem deleteAll_completed (hrun : deleteAll rules p h w = (.ok (p', none), w')) :
    p'.changes.created = p.changes.created ∧ p'.gone = p.gone ++ rules.map (·.arn) := by
  induction rules generalizing p w with
  | nil =>
      cases hrun
      exact ⟨rfl, by simp⟩
  | cons r rest ih =>
      obtain ⟨p₁, w₁, hone, hrest⟩ := andThen_eq_ok hrun
      obtain rfl := deleteReported_completed hone
      obtain ⟨hcreated, hgone⟩ := ih hrest
      exact ⟨hcreated, by simp [hgone]⟩

/-! ### All changes -/

/-- **All changes are made.**  If the changes of a prepared run have not stopped, every platform
rule that was there is deleted, and the rules that are created are one for each planned rule, in
the order of the plan, or none in a mode that does not route platform traffic. -/
theorem Prepared.apply_completed {q : Prepared}
    (hrun : q.apply .start h w = (.ok (p, none), w')) :
    (∀ r ∈ q.platform, r.arn ∈ p.gone) ∧
      (q.mode.routesPlatformTraffic = true →
        List.Forall₂ (Made h q.listener) q.planned p.changes.created) ∧
      (¬ q.mode.routesPlatformTraffic = true → p.changes.created = []) := by
  rw [Prepared.apply, applyPlan] at hrun
  split at hrun
  · rename_i hmode
    obtain ⟨p₁, w₁, hcreate, hdelete⟩ := andThen_eq_ok hrun
    obtain ⟨made, hcreated, hmade⟩ := createAll_completed hcreate
    obtain ⟨hkept, hall⟩ := deleteRemaining_completed hdelete
    refine ⟨fun r hr => hall _ (.inr (List.mem_map_of_mem hr)), fun _ => ?_,
      fun hnot => absurd hmode hnot⟩
    rw [hkept, hcreated]
    exact hmade
  · rename_i hmode
    obtain ⟨hcreated, hgone⟩ := deleteAll_completed hrun
    refine ⟨fun r hr => ?_, fun h' => absurd h' hmode, fun _ => hcreated⟩
    rw [hgone]
    exact List.mem_append_right _ (List.mem_map_of_mem hr)

end Cutover.Rule
