/-
**Bringing the rules of a listener in line with a deployment mode.**

In a mode that routes platform traffic, there is one platform rule for each copilot rule; in a
mode that routes copilot traffic, there is none.  Everything that can be refused without a change
is decided first.  Then rules are created and deleted, and if that fails, what was done is taken
back.

Main definitions:

* `Cutover.Rule.prepare` — what is found out and decided before the first change;
* `Cutover.Rule.applyPlan` — the changes, step by step;
* `Cutover.Rule.settle` — how a run ends once its changes are made or have failed;
* `Cutover.Rule.update` — a whole run for one environment.
-/
import Cutover.Config.Platform
import Cutover.Rule.Counterpart
import Cutover.Rule.Saga

set_option autoImplicit false

namespace Cutover.Rule

variable {σ : Type}

/-- The error code of a request for a priority that another rule has. -/
def priorityInUseCode : String := "PriorityInUse"

/-- A platform rule with a priority. -/
def holderOf (platform : List ListenerRule) (priority : Nat) : Option ListenerRule :=
  platform.find? (fun r => r.priority.toNat? == some priority)

/-- A planned rule is created.  If a platform rule has its priority, that rule goes first. -/
def createReplacing (listener : String) (platform : List ListenerRule) (rule : Planned) :
    Step σ := fun p => do
  match ← create listener rule.definition p with
  | (p, none) => return (p, none)
  | (p, some e) =>
    if e.code? = some priorityInUseCode then
      match holderOf platform rule.definition.priority with
      | none => return (p, some (.priorityInUse rule.definition.priority))
      | some holder => andThen (delete holder) (create listener rule.definition) p
    else return (p, some e)

/-- Planned rules are created in their order. -/
def createAll (listener : String) (platform : List ListenerRule) : List Planned → Step σ
  | [] => fun p => return (p, none)
  | rule :: rest => fun p => do
    Run.info ("Creating platform rule for corresponding copilot rule: " ++ rule.copilotRuleArn)
    andThen (createReplacing listener platform rule) (createAll listener platform rest) p

/-- A rule is deleted, after a line about it. -/
def deleteReported (r : ListenerRule) : Step σ := fun p => do
  Run.info ("Deleting platform rule: " ++ r.arn)
  delete r p

/-- Rules that the run has not deleted yet are deleted in their order. -/
def deleteRemaining : List ListenerRule → Step σ
  | [] => fun p => return (p, none)
  | r :: rest => fun p =>
    if p.changes.deleted.any (fun d => d.arn == r.arn) then deleteRemaining rest p
    else andThen (deleteReported r) (deleteRemaining rest) p

/-- Rules are deleted in their order. -/
def deleteAll : List ListenerRule → Step σ
  | [] => fun p => return (p, none)
  | r :: rest => andThen (deleteReported r) (deleteAll rest)

/-- The changes that a mode asks for. -/
def applyPlan (mode : DeploymentMode) (listener : String) (platform : List ListenerRule)
    (planned : List Planned) : Step σ :=
  if mode.routesPlatformTraffic then
    andThen (createAll listener platform planned) (deleteRemaining platform)
  else deleteAll platform

/-! ### Reports -/

/-- The lines about one rule. -/
def ruleLines (r : ListenerRule) : List String :=
  ["ARN: " ++ r.arn, "Priority: " ++ r.priority.text,
    "Hosts: " ++ String.intercalate "," r.hostHeaders,
    "Paths: " ++ String.intercalate "," r.pathPatterns]

/-- The lines about rules that were changed. -/
def changedLines (heading : String) (rules : List ListenerRule) : List String :=
  if rules.isEmpty then []
  else (heading ++ Text.quoteList (rules.map (·.arn))) :: rules.flatMap ruleLines

/-- The lines about what a run has changed. -/
def Changes.report (c : Changes) : List ReportLine :=
  (changedLines "Created rules: " c.created ++ changedLines "Deleted rules: " c.deleted).map
    (fun line => ⟨.info, line, []⟩)

/-! ### A whole run -/

/-- The planned rules with their priorities; a mode that does not route platform traffic has
none. -/
def plan (mode : DeploymentMode) (application environment : String)
    (copilotRules : List ListenerRule) : Run σ (List Planned) :=
  if mode.routesPlatformTraffic then do
    let groups ← LoadBalancer.targetGroupsWithTags []
    let (lines, result) := planAll application environment copilotRules groups
    Run.reportAll lines
    let planned ← Run.ofExcept result
    Run.ofExcept (assignPriorities (groupByHosts planned))
  else return []

/-- What a run has found out and decided before its first change. -/
structure Prepared where
  mode : DeploymentMode
  listener : String
  /-- The rules of the listener, with their tags. -/
  rules : List ListenerRule
  planned : List Planned

/-- The platform rules that are there before the first change. -/
def Prepared.platform (q : Prepared) : List ListenerRule := (classify q.rules).platform

/-- Everything that a run does before its first change. -/
def prepare (config : PlatformConfig) (environment : String) : Run σ Prepared := do
  let mode := (← Run.ofExcept (config.environment environment)).mode
  Run.info ("Deployment Mode: " ++ mode.name)
  let listener ← LoadBalancer.httpsListener config.application environment
  Run.info ("ARN: " ++ listener)
  let rules ← LoadBalancer.rulesWithTags listener
  let classified := classify rules
  if !classified.manual.isEmpty then
    Run.fail (.manualRulesPresent (classified.manual.map (·.arn)) copilotPriority)
  else
    let planned ← plan mode config.application environment classified.copilot
    return ⟨mode, listener, rules, planned⟩

/-- The changes that a prepared run makes. -/
def Prepared.apply (q : Prepared) : Step σ :=
  applyPlan q.mode q.listener q.platform q.planned

/-- The end of a run whose changes went so far: a report of them, or the failure that stopped
them, before which they are taken back if there are any. -/
def settle (listener : String) : Progress × Option Failure → Run σ Changes
  | (p, none) => do
    Run.reportAll p.changes.report
    return p.changes
  | (p, some e) => if p.isUntouched then Run.fail e else rollBack listener p e

/-- The rules of an environment are brought in line with its mode. -/
def update (config : PlatformConfig) (environment : String) : Run σ Changes := do
  let q ← prepare config environment
  settle q.listener (← q.apply .start)

end Cutover.Rule
