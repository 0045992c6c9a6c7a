/-
**What a rule update makes is known as its own.**

Every rule that a run creates has the mark of this automation among its tags, whether it is planned
for a copilot rule or created again while changes are taken back.  The mark is looked at before
anything else about a rule, so a created rule is a platform rule whatever its priority is.  And
everything that a run deletes is either a platform rule or a rule that it has created.

Main definitions:

* `Cutover.Rule.Definition.IsOwn` — a definition with the mark of this automation;
* `Cutover.Rule.planOf` — what is planned, as a function of what is found out.

Main results:

* `Cutover.Rule.plan_eq_ok` — what a run plans is what the function says;
* `Cutover.Rule.planOf_own` — planned rules have the mark;
* `Cutover.Rule.Course.request_cases` — **what a run may ask for**.
-/
import Cutover.Proofs.Rule.Deletion

set_option autoImplicit false

namespace Cutover.Rule

variable {σ : Type} {config : PlatformConfig} {application environment : String} {h : Host σ}
  {w w' : World σ} {t : List Entry}

/-! ### The mark -/

/-- A definition whose rule is known as one of this automation. -/
def Definition.IsOwn (d : Definition) : Prop :=
  d.tags.hasValue managedByTag managedByPlatform = true

theorem owner_eq_platform {r : ListenerRule} :
    r.owner = .platform ↔ r.tags.hasValue managedByTag managedByPlatform = true := by
  unfold ListenerRule.owner
  split
  · rename_i hmark
    exact ⟨fun _ => hmark, fun _ => rfl⟩
  · -- none of the other marks says `platform`
    rename_i hmark
    refine ⟨fun howner => ?_, fun h => absurd h hmark⟩
    split at howner
    · cases howner
    · split at howner
      · cases howner
      · split at howner <;> cases howner

/-- The rule of a marked definition is a platform rule, whatever its priority is. -/
theorem Definition.IsOwn.owner {d : Definition} (hd : d.IsOwn) (arn : String) :
    (d.rule arn).owner = .platform :=
  owner_eq_platform.2 hd

/-- A platform rule is created again with the mark. -/
theorem isOwn_of_definition? {r : ListenerRule} {d : Definition} (howner : r.owner = .platform)
    (hd : r.definition? = some d) : d.IsOwn := by
  obtain ⟨n, -, rfl⟩ := Option.map_eq_some_iff.1 hd
  exact owner_eq_platform.1 howner

theorem platformTags_hasValue (application environment service : String) :
    (platformTags application environment service).hasValue managedByTag managedByPlatform =
      true := by
  simp [platformTags, Dict.ofList, Dict.hasValue]

/-! ### Plans -/

/-- The planned rules of a mode with their priorities: none in a mode that does not route platform
traffic. -/
def planOf (mode : DeploymentMode) (application environment : String)
    (copilotRules : List ListenerRule) (groups : List TargetGroup) :
    Except Failure (List Planned) :=
  if mode.routesPlatformTraffic then do
    let planned ← (planAll application environment copilotRules groups).2
    assignPriorities (groupByHosts planned)
  else .ok []

section Planning

variable {mode : DeploymentMode} {copilotRules : List ListenerRule} {groups : List TargetGroup}
  {planned : List Planned}

/-- In a mode that does not route platform traffic nothing is planned. -/
theorem planOf_eq_nil (hmode : ¬ mode.routesPlatformTraffic = true) :
    planOf mode application environment copilotRules groups = .ok [] :=
  if_neg hmode

/-- What a run plans depends on its mode, on copilot rules and on the target groups that it
finds. -/
theorem plan_eq_ok
    (hplan : plan mode application environment copilotRules h w = (.ok planned, w')) :
    ∃ groups, planOf mode application environment copilotRules groups = .ok planned ∧
      (mode.routesPlatformTraffic = true →
        ∃ w₁, LoadBalancer.targetGroupsWithTags [] h w = (.ok groups, w₁)) := by
  unfold plan at hplan
  split at hplan
  · rename_i hmode
    obtain ⟨groups, w₁, hgroups, hrest⟩ := Run.bind_eq_ok hplan
    obtain ⟨⟨⟩, w₂, -, hrest⟩ := Run.bind_eq_ok hrest
    obtain ⟨rules, w₃, hrules, hassign⟩ := Run.bind_eq_ok hrest
    have hall : (planAll application environment copilotRules groups).2 = .ok rules :=
      (Run.ofExcept_eq_ok hrules).1
    refine ⟨groups, ?_, fun _ => ⟨w₁, hgroups⟩⟩
    rw [planOf, if_pos hmode, hall]
    exact (Run.ofExcept_eq_ok hassign).1
  · rename_i hmode
    cases hplan
    exact ⟨[], planOf_eq_nil hmode, fun h' => absurd h' hmode⟩

theorem planEach_own {targets : Targets}
    (hp : (planEach application environment targets copilotRules).2 = .ok planned) :
    ∀ rule ∈ planned, rule.definition.IsOwn := by
  obtain ⟨-, hplanned⟩ :=
    (planEach_plans application environment targets copilotRules).eq_ok hp
  clear hp
  generalize (copilotRules.filter fun r => (targets.serviceFor? r).isSome) = known at hplanned
  induction hplanned with
  | nil => simp
  | cons hrule _ ih =>
      obtain ⟨-, -, -⟩ := hrule
      exact List.forall_mem_cons.2 ⟨platformTags_hasValue _ _ _, ih⟩

/-- Planned rules have the mark, with whatever priority. -/
theorem planOf_own
    (hp : planOf mode application environment copilotRules groups = .ok planned) :
    ∀ rule ∈ planned, rule.definition.IsOwn := by
  intro rule hr
  unfold planOf at hp
  split at hp
  · cases hall : (planAll application environment copilotRules groups).2 with
    | error e =>
        rw [hall] at hp
        cases hp
    | ok rules =>
        rw [hall] at hp
        obtain ⟨x, hx, n, rfl⟩ := mem_assignPriorities hp hr
        exact planEach_own hall x hx
  · cases hp
    cases hr

/-- What a prepared run has planned has the mark. -/
theorem prepare_own {q : Prepared} (hq : prepare config environment h w = (.ok q, w')) :
    ∀ rule ∈ q.planned, rule.definition.IsOwn := by
  obtain ⟨_, _, _, _, _, -, -, -, -, -, -, -, hplan⟩ := prepare_eq_ok hq
  obtain ⟨groups, hplanned, -⟩ := plan_eq_ok hplan
  exact planOf_own hplanned

end Planning

/-! ### What a run may ask for -/

/-- What a prepared run may ask for: to delete a platform rule or a rule that was created, and to
create a rule that is known as its own. -/
inductive Prepared.MayAsk (q : Prepared) (created : List String) : Request → Prop
  | deletePlatform {r : ListenerRule} : r ∈ q.platform → q.MayAsk created (.deleteRule r.arn)
  | deleteCreated {arn : String} : arn ∈ created → q.MayAsk created (.deleteRule arn)
  | create {d : Definition} : d.IsOwn → q.MayAsk created (.createRule q.listener d)

/-- **What a run may ask for.**  Every request of a run to create or to delete a rule is one that
it may make once it is prepared. -/
theorem Course.request_cases {o : Outcome Changes} (c : Course config environment h w t o w')
    {x : Request} (hx : x ∈ requestsIn t) :
    ((∀ arn, x ≠ .deleteRule arn) ∧ ∀ listener d, x ≠ .createRule listener d) ∨
      ∃ q w₁, prepare config environment h w = (.ok q, w₁) ∧ q.MayAsk (createdIn t) x := by
  rw [← forwardPart_append_rollbackPart t, requestsIn_append, List.mem_append] at hx
  rcases c.parts with ⟨hquiet, hback⟩ |
    ⟨q, w₁, t₀, t₁, t₂, p, w₂, hq, hquiet, a, hquiet', hforward, hback⟩
  · rw [hback] at hx
    exact .inl (hquiet.request_ne (hx.resolve_right (by simp [requestsIn])))
  rcases hx with hx | hx
  · rw [hforward] at hx
    rcases request_cases_forward hquiet a hquiet' hx with hx | ⟨r, hr, rfl⟩ | ⟨d, hd, rfl⟩
    · exact .inl hx
    · exact .inr ⟨q, w₁, hq, .deletePlatform hr⟩
    · obtain ⟨rule, hrule, rfl⟩ := hd.2
      exact .inr ⟨q, w₁, hq, .create (prepare_own hq rule hrule)⟩
  · obtain ⟨w₃, t', done, w₄, hreplay, hx⟩ := hback x hx
    rcases hreplay.request_cases hx with ⟨arn, hu, rfl⟩ | ⟨r, d, hu, hd, rfl⟩
    · refine .inr ⟨q, w₁, hq, .deleteCreated ?_⟩
      have hchanges : createdIn (forwardPart t) = createdIn t₁ := by
        rw [hforward, createdIn, changesIn_between hquiet hquiet']
        rfl
      rw [← forwardPart_append_rollbackPart t, createdIn_append, hchanges]
      exact List.mem_append_left _ (a.mem_createdIn.1 hu)
    · -- what is created again was deleted, and only platform rules are
      have hr : r ∈ p.undos.filterMap Undo.recreated? := List.mem_filterMap.2 ⟨_, hu, rfl⟩
      rw [a.recreated_eq, List.mem_reverse] at hr
      have howner := (mem_platform.1 (a.deleted_platform r hr)).2
      exact .inr ⟨q, w₁, hq, .create (isOwn_of_definition? howner hd)⟩

end Cutover.Rule
