/-
**Which copilot rules are planned, and which one is refused.**

A copilot rule is resolved in two steps.  Its first forwarding action names a target group, and if
that group is listed with the mark of the copilot automation, then the rule is for the service of
the mark; other rules are passed over.  For the service there has to be a platform target group of
the application and the environment, of which the last one listed counts, and then nothing of the
conditions of the rule may be left out.  What is planned mirrors the resolved rules one by one, and
otherwise the first rule that cannot be mirrored is the reason of the failure.

Main definitions:

* `Cutover.Rule.ForwardsTo` — the target group that actions forward to first;
* `Cutover.Rule.IsFor`, `Cutover.Rule.IsTarget` — the service of a copilot rule, and the target
  groups that the platform has for a service;
* `Cutover.Rule.Mirrors`, `Cutover.Rule.Refuses` — the planned rule for a copilot rule, and why
  there is none.

Main results:

* `Cutover.Rule.isFor_iff`, `Cutover.Rule.platformTarget_find?` — what target groups are known for;
* `Cutover.Rule.planAll_exact` — **planning mirrors exactly the resolvable rules**.
-/
import Cutover.Proofs.Dict
import Cutover.Proofs.Rule.Counterpart

set_option autoImplicit false

namespace Cutover.Rule

/-! ### The service of a copilot rule -/

/-- The target group that actions forward to first: the own one of an action, or else the first of
those with weights, or else that of a later action. -/
inductive ForwardsTo : List Action → String → Prop
  | own (arn : String) (weighted : List WeightedTarget) (order : Option Int)
      (rest : List Action) : ForwardsTo (.forward (some arn) weighted order :: rest) arn
  | weighted (target : WeightedTarget) (more : List WeightedTarget) (order : Option Int)
      (rest : List Action) :
      ForwardsTo (.forward none (target :: more) order :: rest) target.targetGroupArn
  | nowhere {rest : List Action} {arn : String} (order : Option Int) :
      ForwardsTo rest arn → ForwardsTo (.forward none [] order :: rest) arn
  | response {rest : List Action} {arn : String} (statusCode : String)
      (contentType messageBody : Option String) (order : Option Int) :
      ForwardsTo rest arn →
        ForwardsTo (.fixedResponse statusCode contentType messageBody order :: rest) arn
  | other {rest : List Action} {arn : String} (type : String) (order : Option Int) :
      ForwardsTo rest arn → ForwardsTo (.other type order :: rest) arn

/-- A copilot rule is for the service of the listed target group that it forwards to first. -/
def IsFor (groups : List TargetGroup) (r : ListenerRule) (service : String) : Prop :=
  ∃ g ∈ groups, ForwardsTo r.actions g.arn ∧ g.tags.find? "copilot-service" = some service

/-- A copilot rule whose service is known. -/
def Resolvable (groups : List TargetGroup) (r : ListenerRule) : Prop :=
  ∃ service, IsFor groups r service

/-- A platform target group of an application in an environment for a service. -/
structure IsTarget (application environment service : String) (g : TargetGroup) : Prop where
  ofApplication : g.tags.find? "application" = some application
  inEnvironment : g.tags.find? "environment" = some environment
  managed : g.tags.find? "managed-by" = some "DBT Platform - Service Terraform"
  ofService : g.tags.find? "service" = some service
  named : service ≠ ""

variable {application environment service arn : String} {groups : List TargetGroup}
  {r : ListenerRule} {rules : List ListenerRule} {p : Planned} {planned : List Planned}
  {e : Failure} {g : TargetGroup}

theorem forwardsTo_iff {actions : List Action} :
    ForwardsTo actions arn ↔ actions.findSome? Action.forwardTarget? = some arn := by
  constructor
  · intro h
    induction h with
    | own => rfl
    | weighted => rfl
    | nowhere _ _ ih => exact ih
    | response _ _ _ _ _ ih => exact ih
    | other _ _ _ ih => exact ih
  · intro h
    induction actions with
    | nil => cases h
    | cons a rest ih =>
        match a with
        | .forward (some own) weighted order =>
            cases h
            exact .own arn weighted order rest
        | .forward none (target :: more) order =>
            cases h
            exact .weighted target more order rest
        | .forward none [] order => exact .nowhere order (ih h)
        | .fixedResponse status type body order => exact .response status type body order (ih h)
        | .other type order => exact .other type order (ih h)

instance : DecidablePred (Resolvable groups) := fun r =>
  decidable_of_iff (∃ g ∈ groups, r.actions.findSome? Action.forwardTarget? = some g.arn ∧
      (g.tags.find? "copilot-service").isSome = true) <| by
    constructor
    · rintro ⟨g, hg, hforward, htag⟩
      obtain ⟨service, hservice⟩ := Option.isSome_iff_exists.1 htag
      exact ⟨service, g, hg, forwardsTo_iff.2 hforward, hservice⟩
    · rintro ⟨service, g, hg, hforward, hservice⟩
      exact ⟨g, hg, forwardsTo_iff.1 hforward, Option.isSome_iff_exists.2 ⟨service, hservice⟩⟩

theorem isTarget_iff : IsTarget application environment service g ↔
    isPlatformTarget application environment g = true ∧ serviceOf g = some service := by
  constructor
  · rintro ⟨happlication, henvironment, hmanager, hservice, hnamed⟩
    exact ⟨by simp [isPlatformTarget, Dict.hasValue, managedByTag, managedByServiceTerraform,
      happlication, henvironment, hmanager], by simp [serviceOf, hservice, hnamed]⟩
  · rintro ⟨hmarks, hservice⟩
    simp only [isPlatformTarget, Dict.hasValue, Bool.and_eq_true, beq_iff_eq] at hmarks
    obtain ⟨⟨happlication, henvironment⟩, hmanager⟩ := hmarks
    obtain ⟨hservice, hnamed⟩ := Option.filter_eq_some_iff.1 hservice
    exact ⟨happlication, henvironment, hmanager, hservice, by simpa using hnamed⟩

instance : DecidablePred (IsTarget application environment service) := fun _ =>
  decidable_of_iff _ isTarget_iff.symm

/-- The last listed target group that the platform has for a service. -/
def lastTarget? (application environment service : String) (groups : List TargetGroup) :
    Option TargetGroup :=
  (groups.filter (IsTarget application environment service)).getLast?

theorem lastTarget?_eq_none :
    lastTarget? application environment service groups = none ↔
      ∀ g ∈ groups, ¬ IsTarget application environment service g := by
  simp [lastTarget?]

theorem isTarget_of_lastTarget? (hg : lastTarget? application environment service groups = some g) :
    g ∈ groups ∧ IsTarget application environment service g := by
  simpa using List.mem_of_getLast? hg

/-! ### What the target groups are known for -/

/-- Where no two target groups have the same name in the cloud, a copilot target group is known for
what its own mark says. -/
theorem copilotService_eq_some (hdistinct : (groups.map (·.arn)).Nodup) :
    (Targets.ofGroups application environment groups).copilotService.find? arn = some service ↔
      ∃ g ∈ groups, g.arn = arn ∧ g.tags.find? "copilot-service" = some service := by
  have hkeys : ((groups.filterMap fun g =>
      (g.tags.find? "copilot-service").map ((g.arn, ·))).map (·.1)).Nodup := by
    refine List.pairwise_map.2 ((List.pairwise_map.1 hdistinct).filterMap _ ?_)
    intro g g' hne e he e' he'
    obtain ⟨_, _, rfl⟩ := Option.map_eq_some_iff.1 he
    obtain ⟨_, _, rfl⟩ := Option.map_eq_some_iff.1 he'
    exact hne
  rw [Targets.ofGroups, Dict.find?_ofList hkeys]
  constructor
  · intro hfound
    obtain ⟨g, hg, hentry⟩ := List.mem_filterMap.1 (Dict.mem_of_lookup hfound)
    obtain ⟨s, htag, heq⟩ := Option.map_eq_some_iff.1 hentry
    cases heq
    exact ⟨g, hg, rfl, htag⟩
  · rintro ⟨g, hg, rfl, htag⟩
    exact Dict.lookup_of_mem hkeys (e := (g.arn, service))
      (List.mem_filterMap.2 ⟨g, hg, by rw [htag]; rfl⟩)

/-- The platform target group of a service is the last one listed. -/
theorem platformTarget_find? :
    (Targets.ofGroups application environment groups).platformTarget.find? service =
      (lastTarget? application environment service groups).map (·.arn) := by
  have hentries : (((groups.filter (isPlatformTarget application environment)).filterMap
        fun g => (serviceOf g).map ((·, g.arn))).filter (·.1 = service)) =
      (groups.filter (IsTarget application environment service)).map
        fun g => (service, g.arn) := by
    induction groups with
    | nil => rfl
    | cons g rest ih =>
        simp only [isTarget_iff] at ih ⊢
        by_cases hmarks : isPlatformTarget application environment g = true
        · cases hservice : serviceOf g with
          | none => simp [hmarks, hservice, ih]
          | some s =>
              by_cases hs : s = service
              · simp [hmarks, hservice, hs, ih]
              · simp [hmarks, hservice, hs, ih]
        · simp [hmarks, ih]
  rw [Targets.ofGroups, Dict.find?_ofList_last, hentries, lastTarget?, List.getLast?_map,
    Option.map_map]
  rfl

/-- Where no two target groups have the same name in the cloud, a rule is for one service. -/
theorem isFor_iff (application environment : String) (hdistinct : (groups.map (·.arn)).Nodup) :
    IsFor groups r service ↔
      (Targets.ofGroups application environment groups).serviceFor? r = some service := by
  rw [Targets.serviceFor?, Option.bind_eq_some_iff]
  constructor
  · rintro ⟨g, hg, hforward, htag⟩
    exact ⟨g.arn, forwardsTo_iff.1 hforward,
      (copilotService_eq_some hdistinct).2 ⟨g, hg, rfl, htag⟩⟩
  · rintro ⟨arn, hforward, hfound⟩
    obtain ⟨g, hg, rfl, htag⟩ := (copilotService_eq_some hdistinct).1 hfound
    exact ⟨g, hg, forwardsTo_iff.2 hforward, htag⟩

/-! ### One rule -/

/-- The greatest number of segments of a path pattern of a rule; without a path pattern it is
zero. -/
structure IsDepth (r : ListenerRule) (n : Nat) : Prop where
  bound : ∀ path ∈ r.pathPatterns, ListenerRule.segmentCount path ≤ n
  attained : n = 0 ∨ ∃ path ∈ r.pathPatterns, ListenerRule.segmentCount path = n

theorem isDepth_depth (r : ListenerRule) : IsDepth r r.depth := by
  have hmax : (0 :: r.pathPatterns.map ListenerRule.segmentCount).max? = some r.depth :=
    List.max?_cons'
  obtain ⟨hmem, hbound⟩ := List.max?_eq_some_iff.1 hmax
  refine ⟨fun path hpath => hbound _ (List.mem_cons_of_mem _ (List.mem_map_of_mem hpath)), ?_⟩
  rcases List.mem_cons.1 hmem with hzero | hmem
  · exact .inl hzero
  · exact .inr (List.mem_map.1 hmem)

/-- A planned rule that mirrors a copilot rule. -/
structure Mirrors (application environment : String) (groups : List TargetGroup)
    (r : ListenerRule) (p : Planned) : Prop where
  copilotRule : p.copilotRuleArn = r.arn
  isFor : IsFor groups r p.service
  depth : IsDepth r p.depth
  /-- Its priority is not yet known. -/
  priority : p.definition.priority = 0
  conditions : p.definition.conditions = r.conditions
  httpHeaderName : p.definition.httpHeaderName = r.httpHeaderName
  /-- It forwards to the last listed target group that the platform has for the service. -/
  actions : ∃ g, lastTarget? application environment p.service groups = some g ∧
    p.definition.actions = [.forward (some g.arn) [] none]
  tags : p.definition.tags.entries =
    [("application", application), ("environment", environment), ("managed-by", "DBT Platform"),
      ("reason", "service"), ("service", p.service)]

/-- Why there is no planned rule for a copilot rule of a known service: the platform has no target
group for the service, or else the rule has conditions that cannot be copied. -/
inductive Refuses (application environment : String) (groups : List TargetGroup)
    (r : ListenerRule) : Failure → Prop
  | noTarget {service : String} : IsFor groups r service →
      (∀ g ∈ groups, ¬ IsTarget application environment service g) →
      Refuses application environment groups r
        (.targetGroupNotFound application environment service)
  | unsupported {service : String} {g : TargetGroup} : IsFor groups r service → g ∈ groups →
      IsTarget application environment service g → r.unsupportedConditions ≠ [] →
      Refuses application environment groups r
        (.unsupportedRuleConditions r.arn r.unsupportedConditions)

/-- A copilot rule that does not stand in the way: if its service is known, then the platform has a
target group for the service, and all conditions of the rule can be copied. -/
def Passes (application environment : String) (groups : List TargetGroup)
    (r : ListenerRule) : Prop :=
  ∀ service, IsFor groups r service →
    (∃ g ∈ groups, IsTarget application environment service g) ∧ r.unsupportedConditions = []

theorem platformTags_entries : (platformTags application environment service).entries =
    [("application", application), ("environment", environment), ("managed-by", "DBT Platform"),
      ("reason", "service"), ("service", service)] := by
  simp only [platformTags, Dict.ofList, List.foldl_cons, List.foldl_nil, Dict.insert,
    Dict.insertEntry, Dict.empty, managedByTag, managedByPlatform, String.reduceLT, String.reduceEq,
    if_true, if_false]

section Distinct

variable (hdistinct : (groups.map (·.arn)).Nodup)

include hdistinct

theorem IsPlannedAs.mirrors
    (hp : IsPlannedAs application environment (.ofGroups application environment groups) r p) :
    Mirrors application environment groups r p := by
  obtain ⟨hservice, htarget, -⟩ := hp
  rw [platformTarget_find?, Option.map_eq_some_iff] at htarget
  obtain ⟨g, hlast, rfl⟩ := htarget
  exact ⟨rfl, (isFor_iff application environment hdistinct).2 hservice, isDepth_depth r, rfl,
    rfl, rfl, ⟨g, hlast, rfl⟩, platformTags_entries⟩

theorem IsRefused.refuses
    (he : IsRefused application environment (.ofGroups application environment groups) r e) :
    Refuses application environment groups r e := by
  cases he with
  | noTarget hservice hnone =>
      rw [platformTarget_find?, Option.map_eq_none_iff, lastTarget?_eq_none] at hnone
      exact .noTarget ((isFor_iff application environment hdistinct).2 hservice) hnone
  | unsupported hservice htarget hfields =>
      rw [platformTarget_find?, Option.map_eq_some_iff] at htarget
      obtain ⟨g, hlast, rfl⟩ := htarget
      obtain ⟨hg, hisTarget⟩ := isTarget_of_lastTarget? hlast
      exact .unsupported ((isFor_iff application environment hdistinct).2 hservice) hg hisTarget
        hfields

/-- A rule stands in the way just if it is refused. -/
theorem passes_iff : Passes application environment groups r ↔
    ∀ e, ¬ IsRefused application environment (.ofGroups application environment groups) r e := by
  constructor
  · intro hpasses e he
    cases he.refuses hdistinct with
    | noTarget hservice hnone =>
        obtain ⟨⟨g, hg, htarget⟩, -⟩ := hpasses _ hservice
        exact hnone g hg htarget
    | unsupported hservice _ _ hfields => exact hfields (hpasses _ hservice).2
  · intro hnone service hservice
    rw [isFor_iff application environment hdistinct] at hservice
    cases htarget : (Targets.ofGroups application environment groups).platformTarget.find?
        service with
    | none => exact absurd (.noTarget hservice htarget) (hnone _)
    | some target =>
        have hsupported : r.unsupportedConditions = [] := by
          by_contra hfields
          exact hnone _ (.unsupported hservice htarget hfields)
        rw [platformTarget_find?, Option.map_eq_some_iff] at htarget
        obtain ⟨g, hlast, -⟩ := htarget
        exact ⟨⟨g, isTarget_of_lastTarget? hlast⟩, hsupported⟩

/-- The rules whose service is known. -/
theorem filter_resolvable (application environment : String) (rules : List ListenerRule) :
    (rules.filter fun r =>
        ((Targets.ofGroups application environment groups).serviceFor? r).isSome) =
      rules.filter (Resolvable groups) := by
  refine List.filter_congr fun r _ => ?_
  rw [Bool.eq_iff_iff, Option.isSome_iff_exists, decide_eq_true_iff]
  exact exists_congr fun _ => (isFor_iff application environment hdistinct).symm

end Distinct

/-! ### All rules -/

/-- **Planning mirrors exactly the resolvable rules.**  It succeeds if and only if no rule stands in
the way; then there is one planned rule for each copilot rule of a known service, in their order.
Otherwise the first rule that stands in the way is the reason of the failure. -/
theorem planAll_exact (application environment : String) (rules : List ListenerRule)
    (hdistinct : (groups.map (·.arn)).Nodup) :
    let result := (planAll application environment rules groups).2
    ((∃ planned, result = .ok planned) ↔
        ∀ r ∈ rules, Passes application environment groups r) ∧
      (∀ planned, result = .ok planned →
        List.Forall₂ (Mirrors application environment groups) (rules.filter (Resolvable groups))
          planned) ∧
      ∀ e, result = .error e →
        ∃ before r after, rules = before ++ r :: after ∧
          (∀ r' ∈ before, Passes application environment groups r') ∧
          Refuses application environment groups r e := by
  intro result
  have hplans := planEach_plans application environment
    (.ofGroups application environment groups) rules
  refine ⟨⟨fun ⟨planned, hok⟩ r hr => ?_, fun hpass => ?_⟩, fun planned hok => ?_, fun e herror => ?_⟩
  · exact (passes_iff hdistinct).2 ((hplans.eq_ok hok).1 r hr)
  · cases hresult : result with
    | ok planned => exact ⟨planned, rfl⟩
    | error e =>
        obtain ⟨before, r, after, rfl, -, he⟩ := hplans.eq_error hresult
        exact absurd he ((passes_iff hdistinct).1 (hpass r (by simp)) e)
  · rw [← filter_resolvable hdistinct application environment]
    exact (hplans.eq_ok hok).2.imp fun r p hp => hp.mirrors hdistinct
  · obtain ⟨before, r, after, hrules, hbefore, he⟩ := hplans.eq_error herror
    exact ⟨before, r, after, hrules, fun r' hr' => (passes_iff hdistinct).2 (hbefore r' hr'),
      he.refuses hdistinct⟩

/-- A target group with some tags. -/
def groupWithTags (arn : String) (tags : List (String × String)) : TargetGroup :=
  ⟨arn, arn, ⟨none, none, none, none, none, none⟩, .ofList tags⟩

/-- The tags of a platform target group of the shop in production for the web service. -/
def webTargetTags : List (String × String) :=
  [("application", "shop"), ("environment", "prod"), ("managed-by", managedByServiceTerraform),
    ("service", "web")]

/-- A copilot target group and two platform target groups of one service. -/
def webGroups : List TargetGroup :=
  [groupWithTags "copilot" [("copilot-service", "web")], groupWithTags "first" webTargetTags,
    groupWithTags "last" webTargetTags]

/-- A copilot rule with some actions. -/
def ruleWithActions (arn : String) (actions : List Action) : ListenerRule :=
  ⟨arn, .number 48000, .ofList [(pathPattern, ["/shop/*"])], none, [], actions, .empty⟩

/-- A rule that forwards to the copilot target group, behind one that answers by itself. -/
def webRules : List ListenerRule :=
  [ruleWithActions "maintenance" [.fixedResponse "503" none none none],
    ruleWithActions "web" [.forward none [⟨"copilot", some 1⟩] none]]

theorem planAll_exact_webRules :
    (webGroups.map (·.arn)).Nodup ∧ ∃ planned,
      (planAll "shop" "prod" webRules webGroups).2 = .ok planned ∧
      List.Forall₂ (Mirrors "shop" "prod" webGroups) (webRules.filter (Resolvable webGroups))
        planned ∧
      planned.map (·.definition.actions) = [[.forwardTo "last"]] := by
  have hdistinct : (webGroups.map (·.arn)).Nodup := by decide
  have hplanned : (planAll "shop" "prod" webRules webGroups).2 =
      .ok [plannedFor "shop" "prod" "web" "last" (ruleWithActions "web" [])] := by decide
  have hmirrors := (planAll_exact "shop" "prod" webRules hdistinct).2.1 _ hplanned
  exact ⟨hdistinct, _, hplanned, hmirrors, rfl⟩

end Cutover.Rule
