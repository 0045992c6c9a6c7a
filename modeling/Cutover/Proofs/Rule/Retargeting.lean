/-
**What a planned rule does with a request.**

A planned rule has one action, which forwards to the platform target group.  Whatever else the
copilot rule does with a request before it forwards it, or instead, is not looked at: planning a
list of copilot rules comes out the same, with the same lines, when every action that does not
forward is taken away from them first.  So a planned rule does everything that its copilot rule does
just in case that rule does nothing but forward; a copilot rule that makes sure who sends a request
before it forwards it has a planned rule that forwards without asking.

Main definitions:

* `Cutover.Rule.otherActions` — the actions that do not forward;
* `Cutover.Rule.Retargets` — a planned rule that only forwards;
* `Cutover.Rule.KeepsOtherActions` — planned rules that keep what their copilot rules do besides.

Main results:

* `Cutover.Rule.planAll_withoutOthers` — planning does not see other actions;
* `Cutover.Rule.planAll_retargets` — **planned rules forward and do nothing else**;
* `Cutover.Rule.guardedRule_loses_guard` — a rule whose guard gets lost.
-/
import Cutover.Proofs.Rule.Resolution

set_option autoImplicit false

namespace Cutover.Rule

variable {application environment : String} {targets : Targets} {r : ListenerRule}

/-! ### Actions that do not forward -/

/-- Whether an action forwards. -/
def Action.isForward : Action → Bool
  | .forward _ _ _ => true
  | _ => false

/-- The actions that do not forward, in their order. -/
def otherActions (actions : List Action) : List Action := actions.filter (!·.isForward)

/-- A rule without the actions that do not forward. -/
def withoutOthers (r : ListenerRule) : ListenerRule :=
  { r with actions := r.actions.filter (·.isForward) }

/-- An action that does not forward has no target group. -/
theorem Action.forwardTarget?_eq_none {a : Action} (ha : ¬ a.isForward = true) :
    a.forwardTarget? = none := by
  cases a with
  | forward => exact absurd rfl ha
  | fixedResponse => rfl
  | other => rfl

theorem forwardTarget?_withoutOthers (r : ListenerRule) :
    (withoutOthers r).forwardTarget? = r.forwardTarget? := by
  simp only [ListenerRule.forwardTarget?, withoutOthers]
  induction r.actions with
  | nil => rfl
  | cons a rest ih =>
      by_cases ha : a.isForward = true
      · rw [List.filter_cons_of_pos ha, List.findSome?_cons, List.findSome?_cons, ih]
      · rw [List.filter_cons_of_neg ha, List.findSome?_cons, Action.forwardTarget?_eq_none ha, ih]

/-! ### Planning does not see them -/

theorem counterpart_withoutOthers (application environment : String) (targets : Targets)
    (r : ListenerRule) :
    counterpart application environment targets (withoutOthers r) =
      counterpart application environment targets r := by
  simp only [counterpart, forwardTarget?_withoutOthers]
  rfl

theorem planEach_withoutOthers (application environment : String) (targets : Targets)
    (rules : List ListenerRule) :
    planEach application environment targets (rules.map withoutOthers) =
      planEach application environment targets rules := by
  induction rules with
  | nil => rfl
  | cons r rest ih =>
      rw [List.map_cons, planEach, planEach, counterpart_withoutOthers, ih]
      rfl

/-- Planning does not see the actions that do not forward: without them the lines and the planned
rules, or the failure, are the same. -/
theorem planAll_withoutOthers (application environment : String) (rules : List ListenerRule)
    (groups : List TargetGroup) :
    planAll application environment (rules.map withoutOthers) groups =
      planAll application environment rules groups := by
  rw [planAll, planAll, planEach_withoutOthers]

/-! ### What is planned -/

/-- A planned rule that forwards to a target group and does nothing else. -/
structure Retargets (r : ListenerRule) (p : Planned) : Prop where
  copilotRule : p.copilotRuleArn = r.arn
  forwards : ∃ target, p.definition.actions = [.forwardTo target]
  /-- The other actions are kept just in case there are none. -/
  kept : otherActions p.definition.actions = otherActions r.actions ↔ otherActions r.actions = []

theorem IsPlannedAs.retargets {p : Planned}
    (hp : IsPlannedAs application environment targets r p) : Retargets r p := by
  obtain ⟨-, -, -⟩ := hp
  exact ⟨rfl, ⟨_, rfl⟩, eq_comm⟩

/-- **Planned rules forward and do nothing else.**  Planning does not see the actions that do not
forward.  What it plans, one rule for each copilot rule of a known service, keeps them only for
copilot rules that have none. -/
theorem planAll_retargets (application environment : String) (rules : List ListenerRule)
    (groups : List TargetGroup) :
    planAll application environment (rules.map withoutOthers) groups =
        planAll application environment rules groups ∧
      ∀ planned, (planAll application environment rules groups).2 = .ok planned →
        List.Forall₂ Retargets
          (rules.filter fun r =>
            ((Targets.ofGroups application environment groups).serviceFor? r).isSome) planned := by
  refine ⟨planAll_withoutOthers application environment rules groups, fun planned hp => ?_⟩
  have hplans := planEach_plans application environment
    (.ofGroups application environment groups) rules
  exact (hplans.eq_ok hp).2.imp fun _ _ => IsPlannedAs.retargets

/-- A copilot rule that makes sure who sends a request before it forwards it. -/
def guardedRule : ListenerRule :=
  ruleWithActions "guarded"
    [.other "authenticate-oidc" (some 1), .forward (some "copilot") [] (some 2)]

theorem planAll_retargets_guardedRule :
    ∃ planned, (planAll "shop" "prod" [guardedRule] webGroups).2 = .ok planned ∧
      List.Forall₂ Retargets
        ([guardedRule].filter fun r =>
          ((Targets.ofGroups "shop" "prod" webGroups).serviceFor? r).isSome) planned := by
  have hplanned : (planAll "shop" "prod" [guardedRule] webGroups).2 =
      .ok [plannedFor "shop" "prod" "web" "last" guardedRule] := by decide
  exact ⟨_, hplanned, (planAll_retargets "shop" "prod" [guardedRule] webGroups).2 _ hplanned⟩

/-! ### Other actions get lost -/

/-- Planned rules that keep every action that does not forward of their copilot rules. -/
def KeepsOtherActions (rules : List ListenerRule) (planned : List Planned) : Prop :=
  ∀ p ∈ planned, ∃ r ∈ rules, p.copilotRuleArn = r.arn ∧
    otherActions p.definition.actions = otherActions r.actions

/-- The planned rule of a rule that makes sure who sends a request forwards without asking. -/
theorem guardedRule_loses_guard :
    ∃ planned, (planAll "shop" "prod" [guardedRule] webGroups).2 = .ok planned ∧
      ¬ KeepsOtherActions [guardedRule] planned := by
  refine ⟨[plannedFor "shop" "prod" "web" "last" guardedRule], by decide, fun hkeeps => ?_⟩
  obtain ⟨r, hr, -, hkept⟩ := hkeeps _ List.mem_cons_self
  rw [List.mem_singleton.1 hr] at hkept
  cases hkept

end Cutover.Rule
