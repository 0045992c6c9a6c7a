/-
**Load balancers of an application.**

The load balancer of an application in an environment is known by its tags, and so are its target
groups.  Tags are asked for in batches and put on the resources that they belong to.

Main definitions:

* `Cutover.LoadBalancer.tagsForResources` — tags of any number of resources;
* `Cutover.LoadBalancer.rulesWithTags`, `LoadBalancer.targetGroupsWithTags` — listings with tags;
* `Cutover.LoadBalancer.httpsListener`, `LoadBalancer.certificateForListener` and other look-ups;
* `Cutover.LoadBalancer.deleteByTags` — removal of rules by name.
-/
import Cutover.Cloud.Listing

set_option autoImplicit false

namespace Cutover.LoadBalancer

variable {σ : Type}

/-! ### Tags -/

/-- How many resources one request for tags may name. -/
def tagBatchSize : Nat := 20

/-- A list in parts of `n + 1` items, of which the last may be shorter. -/
def batches {α : Type} (n : Nat) : List α → List (List α)
  | [] => []
  | x :: rest => (x :: rest.take n) :: batches n (rest.drop n)
termination_by l => l.length
decreasing_by simp only [List.length_drop, List.length_cons]; omega

/-- The tags of resources in batches, added to those already known. -/
def tagsOfBatches (known : Dict Tags) : List (List String) → Run σ (Dict Tags)
  | [] => return known
  | batch :: rest => do
    let descriptions : List TagDescription ← Run.call (.describeTags batch)
    tagsOfBatches (descriptions.foldl (fun d t => d.insert t.resourceArn t.tags) known) rest

/-- The tags of resources. -/
def tagsForResources (arns : List String) : Run σ (Dict Tags) :=
  tagsOfBatches .empty (batches (tagBatchSize - 1) arns)

/-- The load balancer that has all three tags of an application in an environment. -/
def isForApplication (application environment : String) (tags : Tags) : Bool :=
  tags.hasValue "copilot-application" application &&
    tags.hasValue "copilot-environment" environment &&
    tags.hasValue "managed-by" "DBT Platform - Terraform"

/-! ### Look-ups -/

/-- The load balancers of the account. -/
def all : Run σ (List String) := Run.listAll (fun m => Run.call (.describeLoadBalancers m))

/-- The load balancer of an application in an environment. -/
def forApplication (application environment : String) : Run σ String := do
  let arns ← all
  let tags ← tagsForResources arns
  let isMatch (arn : String) : Bool :=
    (tags.find? arn).any (isForApplication application environment)
  match arns.find? isMatch with
  | some arn => return arn
  | none => Run.fail (.loadBalancerNotFound application environment)

/-- The listeners of a load balancer. -/
def listeners (loadBalancer : String) : Run σ (List Listener) :=
  Run.listAll (fun m => Run.call (.describeListeners loadBalancer m))

/-- The listener of an application in an environment that takes encrypted requests. -/
def httpsListener (application environment : String) : Run σ String := do
  let found ← listeners (← forApplication application environment)
  match found.find? (fun l => l.protocol == some "HTTPS") with
  | some l => return l.arn
  | none => Run.fail (.listenerNotFound application environment)

/-- The default certificate of a listener. -/
def certificateForListener (listener environment : String) : Run σ String := do
  let search (c : Certificate) : Run σ (Option String) :=
    return if c.isDefault then some c.arn else none
  match ← Run.findInPages
      (fun m => Run.call (.describeListenerCertificates listener m)) search with
  | some arn => return arn
  | none => Run.fail (.certificateNotFound environment)

/-- The default certificate of an application in an environment. -/
def certificateForApplication (application environment : String) : Run σ String := do
  certificateForListener (← httpsListener application environment) environment

/-! ### Rules and target groups -/

/-- The rules of a listener, without tags. -/
def rules (listener : String) : Run σ (List ListenerRule) :=
  Run.listAll (fun m => Run.call (.describeRules listener m))

/-- Resources with the tags that are known for them; tags are given to the first resource that
they belong to. -/
def giveTags {α : Type} (arn : α → String) (put : α → Tags → α) : Dict Tags → List α → List α
  | _, [] => []
  | tags, x :: rest =>
    put x ((tags.find? (arn x)).getD .empty) :: giveTags arn put (tags.erase (arn x)) rest

/-- The rules of a listener with their tags. -/
def rulesWithTags (listener : String) : Run σ (List ListenerRule) := do
  let found ← rules listener
  let tags ← tagsForResources (found.map (·.arn))
  return giveTags (·.arn) (fun r t => { r with tags := t }) tags found

/-- The target groups of the account, without tags. -/
def targetGroups : Run σ (List TargetGroup) :=
  Run.listAll (fun m => Run.call (.describeTargetGroups m))

/-- The named target groups with their tags, or all of them when none is named. -/
def targetGroupsWithTags (arns : List String) : Run σ (List TargetGroup) := do
  let found ← targetGroups
  let wanted := if arns.isEmpty then found else found.filter (fun g => arns.contains g.arn)
  let tags ← tagsForResources (wanted.map (·.arn))
  return giveTags (·.arn) (fun g t => { g with tags := t }) tags wanted

/-- The target group that the copilot automation made for a service, if there is one. -/
def findTargetGroup (application environment service : String) : Run σ (Option String) := do
  let groups ← targetGroupsWithTags []
  let isMatch (g : TargetGroup) : Bool :=
    g.tags.hasValue "copilot-application" application &&
      g.tags.hasValue "copilot-environment" environment &&
      g.tags.hasValue "copilot-service" service
  match groups.find? isMatch with
  | some g => return some g.arn
  | none =>
    Run.report .warn "No target group found"
      [("application", application), ("environment", environment), ("service", service)]
    return none

/-- The hosts of the last rule that forwards to a target group. -/
def hostHeaderConditions (listener targetGroup : String) : Run σ (List String) := do
  let found ← rules listener
  let isMatch (r : ListenerRule) : Bool :=
    r.actions.any (fun a => a.forwardTarget? == some targetGroup)
  match (found.reverse.find? isMatch).bind (·.conditions.find? Rule.hostHeader) with
  | some hosts => return hosts
  | none => Run.fail (.listenerRuleConditionsNotFound listener)

/-! ### Changes -/

/-- A new rule of a listener. -/
def createRule (listener : String) (definition : Rule.Definition) : Run σ ListenerRule :=
  Run.call (.createRule listener definition)

/-- The removal of a rule. -/
def deleteRule (arn : String) : Run σ Unit := Run.call (.deleteRule arn)

/-- The removal of the described rules that have a name. -/
def deleteByTags (name : String) : List TagDescription → Run σ (List String)
  | [] => return []
  | t :: rest => do
    if t.tags.hasValue "name" name && !t.resourceArn.isEmpty then
      deleteRule t.resourceArn
      return t.resourceArn :: (← deleteByTags name rest)
    else deleteByTags name rest

end Cutover.LoadBalancer
