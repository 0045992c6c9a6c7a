/-
**What becomes of copilot rules, one after the other.**

A copilot rule is passed over, refused or planned, and which of these depends on the service that it
is for: on whether it is known, on whether the platform has a target group for it, and then on
whether the rule has conditions that cannot be copied.  A list of copilot rules is gone through up
to the first one that is refused.

Main definitions:

* `Cutover.Rule.Targets.serviceFor?` — the service that a copilot rule is for;
* `Cutover.Rule.ComesTo` — what can become of a copilot rule, and when;
* `Cutover.Rule.IsRefused`, `Cutover.Rule.IsPlannedAs` — the reasons for which a rule is refused,
  and the rule that is planned for it;
* `Cutover.Rule.Plans` — what becomes of a list of copilot rules.

Main results:

* `Cutover.Rule.counterpart_comesTo`, `Cutover.Rule.planEach_plans` — nothing else becomes of them;
* `Cutover.Rule.Plans.eq_ok` — if planning succeeds, there is one planned rule for each rule of a
  known service;
* `Cutover.Rule.Plans.eq_error` — if it fails, the first refused rule is the reason.
-/
import Mathlib.Data.List.Forall2
import Cutover.Rule.Counterpart

set_option autoImplicit false

namespace Cutover.Rule

variable {application environment : String} {targets : Targets} {r : ListenerRule}
  {rules : List ListenerRule} {planned : List Planned} {e : Failure}
  {result : Except Failure (List Planned)}

/-! ### One rule -/

/-- The service that a copilot rule is for, if it is known. -/
def Targets.serviceFor? (targets : Targets) (r : ListenerRule) : Option String :=
  r.forwardTarget?.bind targets.copilotService.find?

/-- The reasons for which a copilot rule of a known service is refused. -/
inductive IsRefused (application environment : String) (targets : Targets) (r : ListenerRule) :
    Failure → Prop
  | noTarget {service : String} : targets.serviceFor? r = some service →
      targets.platformTarget.find? service = none →
      IsRefused application environment targets r
        (.targetGroupNotFound application environment service)
  | unsupported {service target : String} : targets.serviceFor? r = some service →
      targets.platformTarget.find? service = some target → r.unsupportedConditions ≠ [] →
      IsRefused application environment targets r
        (.unsupportedRuleConditions r.arn r.unsupportedConditions)

/-- The rule that is planned for a copilot rule of a known service. -/
inductive IsPlannedAs (application environment : String) (targets : Targets) (r : ListenerRule) :
    Planned → Prop
  | intro {service target : String} : targets.serviceFor? r = some service →
      targets.platformTarget.find? service = some target → r.unsupportedConditions = [] →
      IsPlannedAs application environment targets r
        (plannedFor application environment service target r)

/-- What can become of a copilot rule, and when. -/
inductive ComesTo (application environment : String) (targets : Targets) (r : ListenerRule) :
    Counterpart → Prop
  | skipped {message : String} {fields : List (String × String)} :
      targets.serviceFor? r = none → message ∈ ["Copilot rule has no forward action, skipping",
        "Target group has no 'copilot-service' tag, skipping"] →
      ComesTo application environment targets r (.skipped ⟨.warn, message, fields⟩)
  | refused {e : Failure} : IsRefused application environment targets r e →
      ComesTo application environment targets r (.refused e)
  | planned {p : Planned} (message : String) : IsPlannedAs application environment targets r p →
      ComesTo application environment targets r (.planned ⟨.info, message, []⟩ p)

theorem counterpart_comesTo (application environment : String) (targets : Targets)
    (r : ListenerRule) :
    ComesTo application environment targets r
      (counterpart application environment targets r) := by
  unfold counterpart
  split
  · rename_i hforward
    exact .skipped (by rw [Targets.serviceFor?, hforward]; rfl) (by simp)
  · rename_i group hforward
    have hservice : targets.serviceFor? r = targets.copilotService.find? group := by
      rw [Targets.serviceFor?, hforward]
      rfl
    split
    · rename_i hunknown
      exact .skipped (hservice.trans hunknown) (by simp)
    · rename_i service hfound
      split
      · rename_i hnone
        exact .refused (.noTarget (hservice.trans hfound) hnone)
      · rename_i target htarget
        split
        · rename_i hfields
          exact .refused (.unsupported (hservice.trans hfound) htarget (by simpa using hfields))
        · rename_i hfields
          exact .planned _ (.intro (hservice.trans hfound) htarget (by simpa using hfields))

/-- A rule that is planned is not refused. -/
theorem IsPlannedAs.not_refused {p : Planned}
    (hp : IsPlannedAs application environment targets r p) :
    ¬ IsRefused application environment targets r e := by
  obtain ⟨hservice, htarget, hsupported⟩ := hp
  intro he
  cases he with
  | noTarget hservice' hnone =>
      cases hservice.symm.trans hservice'
      cases htarget.symm.trans hnone
  | unsupported _ _ hfields => exact hfields hsupported

/-- A rule whose service is not known is not refused. -/
theorem not_refused_of_unknown (hr : targets.serviceFor? r = none) :
    ¬ IsRefused application environment targets r e := by
  intro he
  cases he with
  | noTarget hservice _ => cases hr.symm.trans hservice
  | unsupported hservice _ _ => cases hr.symm.trans hservice

/-! ### All rules -/

/-- What becomes of a list of copilot rules: it is gone through up to the first refusal. -/
inductive Plans (application environment : String) (targets : Targets) :
    List ListenerRule → Except Failure (List Planned) → Prop
  | nil : Plans application environment targets [] (.ok [])
  | skipped {r : ListenerRule} {rest : List ListenerRule}
      {result : Except Failure (List Planned)} : targets.serviceFor? r = none →
      Plans application environment targets rest result →
      Plans application environment targets (r :: rest) result
  | refused {r : ListenerRule} {e : Failure} (rest : List ListenerRule) :
      IsRefused application environment targets r e →
      Plans application environment targets (r :: rest) (.error e)
  | planned {r : ListenerRule} {p : Planned} {rest : List ListenerRule}
      {result : Except Failure (List Planned)} : IsPlannedAs application environment targets r p →
      Plans application environment targets rest result →
      Plans application environment targets (r :: rest) (result.map (p :: ·))

theorem planEach_plans (application environment : String) (targets : Targets)
    (rules : List ListenerRule) :
    Plans application environment targets rules
      (planEach application environment targets rules).2 := by
  induction rules with
  | nil => exact .nil
  | cons r rest ih =>
      have hr := counterpart_comesTo application environment targets r
      rw [planEach]
      cases hc : counterpart application environment targets r with
      | skipped line =>
          rw [hc] at hr
          cases hr with
          | skipped hunknown _ => exact .skipped hunknown ih
      | refused e =>
          rw [hc] at hr
          cases hr with
          | refused he => exact .refused rest he
      | planned line p =>
          rw [hc] at hr
          cases hr with
          | planned _ hp => exact .planned hp ih

/-- If planning succeeds, then no rule is refused, and there is one planned rule for each rule of a
known service, in their order. -/
theorem Plans.eq_ok (h : Plans application environment targets rules result)
    (hok : result = .ok planned) :
    (∀ r ∈ rules, ∀ e, ¬ IsRefused application environment targets r e) ∧
      List.Forall₂ (IsPlannedAs application environment targets)
        (rules.filter fun r => (targets.serviceFor? r).isSome) planned := by
  induction h generalizing planned with
  | nil =>
      cases hok
      exact ⟨by simp, .nil⟩
  | @skipped r rest result hunknown _ ih =>
      obtain ⟨hnone, hplanned⟩ := ih hok
      rw [List.filter_cons_of_neg (by simp [hunknown])]
      exact ⟨List.forall_mem_cons.2 ⟨fun e => not_refused_of_unknown hunknown, hnone⟩, hplanned⟩
  | refused => cases hok
  | @planned r p rest result hp _ ih =>
      cases result with
      | error e => cases hok
      | ok more =>
          cases hok
          obtain ⟨hnone, hplanned⟩ := ih rfl
          have hknown : (targets.serviceFor? r).isSome = true := by
            obtain ⟨hservice, -, -⟩ := hp
            rw [hservice]
            rfl
          rw [List.filter_cons_of_pos (by simpa using hknown)]
          exact ⟨List.forall_mem_cons.2 ⟨fun e => hp.not_refused, hnone⟩, .cons hp hplanned⟩

/-- If planning fails, then the first refused rule is the reason. -/
theorem Plans.eq_error (h : Plans application environment targets rules result)
    (herror : result = .error e) :
    ∃ before r after, rules = before ++ r :: after ∧
      (∀ r' ∈ before, ∀ e', ¬ IsRefused application environment targets r' e') ∧
      IsRefused application environment targets r e := by
  induction h with
  | nil => cases herror
  | @skipped r rest result hunknown _ ih =>
      obtain ⟨before, r', after, rfl, hbefore, he⟩ := ih herror
      refine ⟨r :: before, r', after, rfl, List.forall_mem_cons.2 ⟨?_, hbefore⟩, he⟩
      exact fun e' => not_refused_of_unknown hunknown
  | refused rest he =>
      cases herror
      exact ⟨[], _, rest, rfl, by simp, he⟩
  | @planned r p rest result hp _ ih =>
      cases result with
      | ok more => cases herror
      | error e' =>
          obtain ⟨before, r', after, rfl, hbefore, he⟩ := ih (by cases herror; rfl)
          refine ⟨r :: before, r', after, rfl, List.forall_mem_cons.2 ⟨?_, hbefore⟩, he⟩
          exact fun e' => hp.not_refused

end Cutover.Rule
