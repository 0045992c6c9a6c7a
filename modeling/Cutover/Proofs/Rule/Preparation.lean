/-
**What a rule update does before its first change.**

Before its first change a rule update only looks: it asks for load balancers, listeners, rules,
target groups and tags.  It ends with the first of these requests that fails, or it is refused for
one of a few reasons of its own, none of which says that changes were taken back; and what it plans
has priorities that differ from one another.

Main definitions:

* `Cutover.Rule.Refusal` — the reasons for which a rule update is refused before its first change;
* `Cutover.Rule.Seeks`, `Cutover.Rule.Looks` — runs that change nothing.

Main results:

* `Cutover.Rule.prepare_seeks`, `Cutover.Rule.prepare_looks` — the preparation changes nothing;
* `Cutover.Rule.prepare_eq_ok` — what has happened when the preparation succeeds;
* `Cutover.Rule.prepare_nodup` — no two planned rules have the same priority.
-/
import Cutover.Proofs.Rule.Band
import Cutover.Proofs.Rule.Counterpart
import Cutover.Proofs.Rule.Trace
import Cutover.Rule.Update

set_option autoImplicit false

namespace Cutover.Rule

variable {σ α β : Type}

/-! ### Refusals -/

/-- The reasons for which a rule update is refused before its first change, when no request has
failed. -/
inductive Refusal (application environment : String) : Failure → Prop
  | noEnvironment : Refusal application environment (.environmentNotFound application environment)
  | noLoadBalancer : Refusal application environment (.loadBalancerNotFound application environment)
  | noListener : Refusal application environment (.listenerNotFound application environment)
  | manualRules {arns : List String} : arns ≠ [] →
      Refusal application environment (.manualRulesPresent arns copilotPriority)
  | noTargetGroup (service : String) :
      Refusal application environment (.targetGroupNotFound application environment service)
  | unsupportedConditions (arn : String) {fields : List String} : fields ≠ [] →
      Refusal application environment (.unsupportedRuleConditions arn fields)
  | bandExceeded (hosts : List String) {n : Nat} : bandCapacity < n →
      Refusal application environment (.priorityBandExceeded hosts n bandCapacity)

/-- A refusal does not say that changes were taken back. -/
theorem Refusal.kind {application environment : String} {e : Failure}
    (he : Refusal application environment e) : e.kind ≠ .partialFailure := by
  cases he <;> simp [Failure.kind]

/-! ### Looking -/

/-- A run that changes nothing, takes nothing back, and does not fail as if it had. -/
abbrev Looks (m : Run σ α) : Prop :=
  Run.Within (fun x => x.isMutation = false ∧ x.isRollingBack = false)
    (fun e => e.kind ≠ .partialFailure) m

/-- A plain run that changes nothing and takes nothing back, and is refused for some reasons. -/
abbrev Seeks (F : Failure → Prop) (m : Run σ α) : Prop :=
  Run.Plain (fun x => x.isMutation = false ∧ x.isRollingBack = false) F m

theorem Seeks.looks {F : Failure → Prop} {m : Run σ α} (hm : Seeks F m)
    (hF : ∀ e, F e → e.kind ≠ .partialFailure) : Looks m := by
  intro h w
  obtain ⟨t, hpath, ht, hfail⟩ := hm.within h w
  exact ⟨t, hpath, ht, fun e he => (hfail e he).imp (hF e) id⟩

section Seeking

variable {F : Failure → Prop}

theorem seeks_info (message : String) : Seeks F (Run.info message : Run σ Unit) :=
  .reportLine ⟨rfl, Entry.isRollingBack_report (by simp [rollingBackLine])⟩

theorem seeks_tagsOfBatches (known : Dict Tags) (batches : List (List String)) :
    Seeks F (LoadBalancer.tagsOfBatches known batches : Run σ (Dict Tags)) := by
  induction batches generalizing known with
  | nil => exact .pure known
  | cons batch rest ih =>
      exact Run.Plain.bind (.call fun _ => ⟨rfl, rfl⟩) fun _ => ih _

theorem seeks_tagsForResources (arns : List String) :
    Seeks F (LoadBalancer.tagsForResources arns : Run σ (Dict Tags)) :=
  seeks_tagsOfBatches _ _

theorem seeks_rulesWithTags (listener : String) :
    Seeks F (LoadBalancer.rulesWithTags listener : Run σ (List ListenerRule)) :=
  .bind (.listAll fun _ => .call fun _ => ⟨rfl, rfl⟩) fun _ =>
    .bind (seeks_tagsForResources _) fun _ => .pure _

theorem seeks_targetGroupsWithTags (arns : List String) :
    Seeks F (LoadBalancer.targetGroupsWithTags arns : Run σ (List TargetGroup)) :=
  .bind (.listAll fun _ => .call fun _ => ⟨rfl, rfl⟩) fun _ =>
    .bind (seeks_tagsForResources _) fun _ => .pure _

end Seeking

theorem seeks_forApplication (application environment : String) :
    Seeks (Refusal application environment)
      (LoadBalancer.forApplication application environment : Run σ String) := by
  refine .bind (.listAll fun _ => .call fun _ => ⟨rfl, rfl⟩) fun arns => ?_
  refine .bind (seeks_tagsForResources arns) fun tags => ?_
  dsimp only
  split
  · exact .pure _
  · exact .fail .noLoadBalancer

theorem seeks_httpsListener (application environment : String) :
    Seeks (Refusal application environment)
      (LoadBalancer.httpsListener application environment : Run σ String) := by
  refine .bind (seeks_forApplication application environment) fun lb => ?_
  refine .bind (.listAll fun _ => .call fun _ => ⟨rfl, rfl⟩) fun found => ?_
  split
  · exact .pure _
  · exact .fail .noListener

/-! ### Planning -/

section Planning

variable {application environment : String}

/-- A copilot rule is refused for one of the reasons. -/
theorem IsRefused.refusal {targets : Targets} {r : ListenerRule} {e : Failure}
    (he : IsRefused application environment targets r e) : Refusal application environment e := by
  cases he with
  | noTarget _ _ => exact .noTargetGroup _
  | unsupported _ _ hfields => exact .unsupportedConditions _ hfields

/-- The line about a skipped or planned copilot rule does not start the taking back. -/
theorem counterpart_line {targets : Targets} {r : ListenerRule} {line : ReportLine}
    (hc : counterpart application environment targets r = .skipped line ∨
      ∃ rule, counterpart application environment targets r = .planned line rule) :
    line ≠ rollingBackLine := by
  have hr := counterpart_comesTo application environment targets r
  rcases hc with hc | ⟨rule, hc⟩
  · rw [hc] at hr
    cases hr with
    | skipped _ hmessage =>
        rintro ⟨⟩
        simp at hmessage
  · rw [hc] at hr
    cases hr
    simp [rollingBackLine]

/-- A group is refused if it does not fit into its band. -/
theorem assignFrom_refusal {start : Nat} {groups : List Group} {e : Failure}
    (hg : assignFrom start groups = .error e) : Refusal application environment e := by
  induction groups generalizing start with
  | nil => cases hg
  | cons g rest ih =>
      rw [assignFrom] at hg
      split at hg
      · rename_i hcapacity
        cases hg
        exact .bandExceeded _ hcapacity
      · cases hmore : assignFrom (nextBand (lastPriority start g.rules.length)) rest with
        | ok more =>
            rw [hmore] at hg
            cases hg
        | error e' =>
            rw [hmore] at hg
            cases hg
            exact ih hmore

/-- The lines about copilot rules do not start the taking back. -/
theorem planEach_lines (application environment : String) (targets : Targets)
    (copilotRules : List ListenerRule) :
    ∀ line ∈ (planEach application environment targets copilotRules).1,
      line ≠ rollingBackLine := by
  induction copilotRules with
  | nil => simp [planEach]
  | cons r rest ih =>
      have hbuilding : buildingLine r ≠ rollingBackLine := by
        simp [buildingLine, rollingBackLine]
      intro l hl
      cases hc : counterpart application environment targets r with
      | refused e =>
          simp only [planEach, hc, List.mem_singleton] at hl
          exact hl ▸ hbuilding
      | skipped line =>
          simp only [planEach, hc, List.mem_cons] at hl
          rcases hl with rfl | rfl | hl
          · exact hbuilding
          · exact counterpart_line (.inl hc)
          · exact ih l hl
      | planned line rule =>
          simp only [planEach, hc, List.mem_cons] at hl
          rcases hl with rfl | rfl | hl
          · exact hbuilding
          · exact counterpart_line (.inr ⟨rule, hc⟩)
          · exact ih l hl

/-- Planning each rule is refused for one of the reasons. -/
theorem planEach_refusal {targets : Targets} {copilotRules : List ListenerRule} {e : Failure}
    (he : (planEach application environment targets copilotRules).2 = .error e) :
    Refusal application environment e := by
  obtain ⟨_, _, _, _, _, hrefused⟩ :=
    (planEach_plans application environment targets copilotRules).eq_error he
  exact hrefused.refusal

/-- The line about a target group without a service does not start the taking back. -/
theorem targetReports_ne (application environment : String) (groups : List TargetGroup) :
    ∀ line ∈ targetReports application environment groups, line ≠ rollingBackLine := by
  intro line hl heq
  obtain ⟨g, -, rfl⟩ := List.mem_map.1 hl
  -- the two messages already differ in their first letter
  have hmessage := congrArg String.toList (congrArg ReportLine.message heq)
  simp [rollingBackLine] at hmessage

theorem seeks_plan (mode : DeploymentMode) (copilotRules : List ListenerRule) :
    Seeks (Refusal application environment)
      (plan mode application environment copilotRules : Run σ (List Planned)) := by
  unfold plan
  split
  · refine .bind (seeks_targetGroupsWithTags []) fun groups => ?_
    refine .bind (.reportAll fun line hl => ?_) fun _ => ?_
    · rcases List.mem_append.1 hl with hl | hl
      · exact ⟨rfl, Entry.isRollingBack_report (targetReports_ne _ _ _ line hl)⟩
      · exact ⟨rfl, Entry.isRollingBack_report (planEach_lines _ _ _ _ line hl)⟩
    · refine .bind (.ofExcept fun _ => planEach_refusal) fun planned => .ofExcept fun e he => ?_
      exact assignFrom_refusal he
  · exact .pure _

end Planning

/-- The preparation of a rule update only looks, and is refused for one of the reasons. -/
theorem prepare_seeks (config : PlatformConfig) (environment : String) :
    Seeks (Refusal config.application environment)
      (prepare config environment : Run σ Prepared) := by
  refine .bind (.ofExcept fun e he => ?_) fun e => ?_
  · unfold PlatformConfig.environment at he
    split at he
    · cases he
    · cases he
      exact .noEnvironment
  refine .bind (seeks_info _) fun _ => .bind (seeks_httpsListener _ _) fun listener => ?_
  refine .bind (seeks_info _) fun _ => .bind (seeks_rulesWithTags listener) fun rules => ?_
  dsimp only
  split
  · rename_i hmanual
    exact .fail (.manualRules (by simpa using hmanual))
  · exact .bind (seeks_plan _ _) fun planned => .pure _

theorem prepare_looks (config : PlatformConfig) (environment : String) :
    Looks (prepare config environment : Run σ Prepared) :=
  (prepare_seeks config environment).looks fun _ he => he.kind

/-! ### A successful preparation -/

section Success

variable {config : PlatformConfig} {environment : String} {h : Host σ} {w w' : World σ}
  {q : Prepared}

/-- What has happened when the preparation succeeds: the listener was found, its rules were
fetched, none of them was made by hand, and the planning succeeded. -/
theorem prepare_eq_ok (hq : prepare config environment h w = (.ok q, w')) :
    ∃ e w₀ w₁ w₂ w₃, config.environment environment = .ok e ∧ q.mode = e.mode ∧
      w₀ = Run.note w (.report ⟨.info, "Deployment Mode: " ++ e.mode.name, []⟩) ∧
      LoadBalancer.httpsListener config.application environment h w₀ = (.ok q.listener, w₁) ∧
      w₂ = Run.note w₁ (.report ⟨.info, "ARN: " ++ q.listener, []⟩) ∧
      LoadBalancer.rulesWithTags q.listener h w₂ = (.ok q.rules, w₃) ∧
      (classify q.rules).manual = [] ∧
      plan q.mode config.application environment (classify q.rules).copilot h w₃ =
        (.ok q.planned, w') := by
  obtain ⟨e, w₀, hfound, hrest⟩ := Run.bind_eq_ok hq
  obtain ⟨henv, rfl⟩ := Run.ofExcept_eq_ok hfound
  obtain ⟨⟨⟩, w₁, hmode, hrest₁⟩ := Run.bind_eq_ok hrest
  obtain ⟨listener, w₂, hlistener, hrest₂⟩ := Run.bind_eq_ok hrest₁
  obtain ⟨⟨⟩, w₃, harn, hrest₃⟩ := Run.bind_eq_ok hrest₂
  obtain ⟨rules, w₄, hrules, hrest₄⟩ := Run.bind_eq_ok hrest₃
  cases hmode
  cases harn
  dsimp only at hrest₄
  split at hrest₄
  · cases hrest₄
  · rename_i hmanual
    obtain ⟨planned, w₅, hplan, hreturn⟩ := Run.bind_eq_ok hrest₄
    cases hreturn
    exact ⟨e, _, _, _, _, henv, rfl, rfl, hlistener, rfl, hrules, by simpa using hmanual, hplan⟩

/-- The priorities of a plan differ from one another. -/
theorem plan_nodup {mode : DeploymentMode} {application environment : String}
    {copilotRules : List ListenerRule} {planned : List Planned}
    (hp : plan mode application environment copilotRules h w = (.ok planned, w')) :
    (planned.map (·.definition.priority)).Nodup := by
  unfold plan at hp
  split at hp
  · obtain ⟨groups, _, -, hp⟩ := Run.bind_eq_ok hp
    obtain ⟨⟨⟩, _, -, hp⟩ := Run.bind_eq_ok hp
    obtain ⟨rules, w₁, -, hp⟩ := Run.bind_eq_ok hp
    cases hassign : assignPriorities (groupByHosts rules) with
    | ok planned' =>
        rw [hassign] at hp
        cases hp
        exact assignPriorities_nodup hassign
    | error e =>
        rw [hassign] at hp
        cases hp
  · cases hp
    exact .nil

/-- No two rules that are planned by a successful preparation have the same priority. -/
theorem prepare_nodup (hq : prepare config environment h w = (.ok q, w')) :
    (q.planned.map (·.definition.priority)).Nodup := by
  obtain ⟨_, _, _, _, _, -, -, -, -, -, -, -, hplan⟩ := prepare_eq_ok hq
  exact plan_nodup hplan

end Success

end Cutover.Rule
