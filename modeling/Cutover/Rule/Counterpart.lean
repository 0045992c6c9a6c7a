/-
**Platform rules for copilot rules.**

A copilot rule forwards to a target group that the copilot automation made for a service.  The
platform has a target group of its own for the same service, and the platform rule has the same
conditions and forwards there.  A copilot rule that does not forward to a known service is left
alone; one that does needs a platform target group, and its conditions have to be such that a
rule can be created from them.

Main definitions:

* `Cutover.Rule.Targets` — the target groups by what they are for;
* `Cutover.Rule.counterpart` — what becomes of one copilot rule;
* `Cutover.Rule.planAll` — what becomes of all of them.
-/
import Cutover.Cloud.Run
import Cutover.Rule.Band
import Cutover.Rule.Owner

set_option autoImplicit false

namespace Cutover.Rule

/-! ### Target groups -/

/-- The automation that makes the platform target groups. -/
def managedByServiceTerraform : String := "DBT Platform - Service Terraform"

/-- Whether a target group is a platform target group of an application in an environment. -/
def isPlatformTarget (application environment : String) (g : TargetGroup) : Bool :=
  g.tags.hasValue "application" application &&
    g.tags.hasValue "environment" environment &&
    g.tags.hasValue managedByTag managedByServiceTerraform

/-- The service that a platform target group is for. -/
def serviceOf (g : TargetGroup) : Option String :=
  (g.tags.find? "service").filter (fun s => !s.isEmpty)

/-- The target groups by what they are for. -/
structure Targets where
  /-- The service of a copilot target group, by its name in the cloud. -/
  copilotService : Dict String
  /-- The platform target group of a service. -/
  platformTarget : Dict String

/-- The target groups of an account by what they are for; of several the last counts. -/
def Targets.ofGroups (application environment : String) (groups : List TargetGroup) :
    Targets where
  copilotService := Dict.ofList
    (groups.filterMap (fun g => (g.tags.find? "copilot-service").map (fun s => (g.arn, s))))
  platformTarget := Dict.ofList
    ((groups.filter (isPlatformTarget application environment)).filterMap
      (fun g => (serviceOf g).map (fun s => (s, g.arn))))

/-- A line for each platform target group without a service. -/
def targetReports (application environment : String) (groups : List TargetGroup) :
    List ReportLine :=
  ((groups.filter (isPlatformTarget application environment)).filter
    (fun g => (serviceOf g).isNone)).map
      (fun g => ⟨.warn, "Target group " ++ g.name ++ " has no 'service' tag", []⟩)

/-! ### One rule -/

/-- What becomes of a copilot rule. -/
inductive Counterpart
  | skipped (line : ReportLine)
  | refused (failure : Failure)
  | planned (line : ReportLine) (rule : Planned)

/-- The tags of a platform rule. -/
def platformTags (application environment service : String) : Tags :=
  Dict.ofList [("application", application), ("environment", environment),
    ("service", service), ("reason", "service"), (managedByTag, managedByPlatform)]

/-- The platform rule for a copilot rule of a service; its priority is not yet known. -/
def plannedFor (application environment service target : String) (r : ListenerRule) :
    Planned where
  copilotRuleArn := r.arn
  service := service
  depth := r.depth
  definition :=
    { priority := 0
      conditions := r.conditions
      httpHeaderName := r.httpHeaderName
      actions := [.forwardTo target]
      tags := platformTags application environment service }

/-- What becomes of a copilot rule. -/
def counterpart (application environment : String) (targets : Targets) (r : ListenerRule) :
    Counterpart :=
  match r.forwardTarget? with
  | none =>
    .skipped ⟨.warn, "Copilot rule has no forward action, skipping", [("rule", r.arn)]⟩
  | some group =>
    match targets.copilotService.find? group with
    | none =>
      .skipped ⟨.warn, "Target group has no 'copilot-service' tag, skipping",
        [("rule", r.arn), ("target_group", group)]⟩
    | some service =>
      match targets.platformTarget.find? service with
      | none => .refused (.targetGroupNotFound application environment service)
      | some target =>
        if !r.unsupportedConditions.isEmpty then
          .refused (.unsupportedRuleConditions r.arn r.unsupportedConditions)
        else
          .planned ⟨.info, "Updated forward action for service " ++ service ++ " to use: " ++
              target, []⟩
            (plannedFor application environment service target r)

/-! ### All rules -/

/-- The line in front of what becomes of a copilot rule. -/
def buildingLine (r : ListenerRule) : ReportLine :=
  ⟨.info, "Building platform rule for corresponding copilot rule: " ++ r.arn, []⟩

/-- What becomes of copilot rules: the lines that are reported on the way, and the planned rules
or the first refusal. -/
def planEach (application environment : String) (targets : Targets) :
    List ListenerRule → List ReportLine × Except Failure (List Planned)
  | [] => ([], .ok [])
  | r :: rest =>
    match counterpart application environment targets r with
    | .refused e => ([buildingLine r], .error e)
    | .skipped line =>
      let (lines, result) := planEach application environment targets rest
      (buildingLine r :: line :: lines, result)
    | .planned line rule =>
      let (lines, result) := planEach application environment targets rest
      (buildingLine r :: line :: lines, result.map (rule :: ·))

/-- The platform rules for copilot rules, in their order, and the lines that are reported. -/
def planAll (application environment : String) (copilotRules : List ListenerRule)
    (groups : List TargetGroup) : List ReportLine × Except Failure (List Planned) :=
  let (lines, result) :=
    planEach application environment (.ofGroups application environment groups) copilotRules
  (targetReports application environment groups ++ lines, result)

end Cutover.Rule
