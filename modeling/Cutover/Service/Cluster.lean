/-
**Clusters, tasks and deployments.**

What a deployment reads from and does in the cluster of its environment.

Main definitions:

* `Cutover.Service.clusterByName`, `Service.clusterByTags` — the cluster of an environment;
* `Cutover.Service.registerTaskDefinition`, `Service.updateService` — what a deployment changes;
* `Cutover.Service.taskArns`, `Service.containerNames`, `Service.rolloutState` — what it looks at;
* `Cutover.Service.awaitTask`, `Service.awaitExec` — waits for a task and for its agent.
-/
import Cutover.Cloud.Listing
import Cutover.Cloud.Poll
import Cutover.Config.Service
import Cutover.Service.Names

set_option autoImplicit false

namespace Cutover.Service

variable {σ : Type}

/-! ### Clusters -/

/-- The cluster that has the name of an environment. -/
def clusterByName (application environment : String) : Run σ String := do
  let found : List Cluster ←
    Run.call (.describeClusters [clusterName application environment])
  match found with
  | [c] =>
    if c.arn.isEmpty then Run.fail (.clusterNotFound application environment) else return c.arn
  | _ => Run.fail (.clusterNotFound application environment)

/-- Whether a cluster has the tags of an environment. -/
def isClusterOf (application environment : String) (tags : Tags) : Bool :=
  tags.hasValue "copilot-application" application &&
    tags.hasValue "copilot-environment" environment &&
    tags.hasValue "aws:cloudformation:logical-id" "Cluster"

/-- The first cluster that has the tags of an environment. -/
def clusterByTags (application environment : String) : Run σ String := do
  let search (arn : String) : Run σ (Option String) := do
    let tags : Tags ← Run.call (.listTagsForResource arn)
    return if isClusterOf application environment tags then some arn else none
  match ← Run.findInPages (fun token => Run.call (.listClusters token)) search with
  | some arn => return arn
  | none => Run.fail (.clusterNotFound application environment)

/-! ### Changes -/

/-- The task definition of a service. -/
def taskDefinition (application environment accountId : String) (config : ServiceConfig)
    (containers : List Container.Definition) : TaskDefinition where
  family := family application environment config.name
  taskRoleArn := taskRole accountId application environment config.name
  executionRoleArn := executionRole accountId application environment config.name
  networkMode := "awsvpc"
  requiresCompatibilities := ["FARGATE"]
  cpu := toString config.cpu
  memory := toString config.memory
  containerDefinitions := containers

/-- A new task definition of a service. -/
def registerTaskDefinition (application environment accountId : String)
    (config : ServiceConfig) (containers : List Container.Definition) : Run σ String := do
  let arn ← Run.call (.registerTaskDefinition
    (taskDefinition application environment accountId config containers))
  Run.report .info "Registered task definition" [("task_definition", arn)]
  return arn

/-- A service is moved to a task definition; the result is the deployment that does it. -/
def updateService (cluster service taskDefinition : String) : Run σ String := do
  let deployments : List Deployment ← Run.call (.updateService cluster service taskDefinition)
  match deployments.find? Deployment.isPrimary with
  | some d => return d.id
  | none => Run.fail (.noPrimaryDeployment service cluster)

/-! ### Tasks and deployments -/

/-- The tasks that a filter lets through. -/
def taskArns (cluster : String) (filter : TaskFilter) : Run σ (List String) :=
  Run.listAll (fun token => Run.call (.listTasks cluster filter token))

/-- A list with its first occurrences only. -/
def firstOccurrences (l : List String) : List String :=
  l.foldl (fun seen s => if seen.contains s then seen else seen ++ [s]) []

/-- The names of the containers in tasks, each of them once. -/
def containerNames (cluster : String) (tasks : List String) : Run σ (List String) := do
  let found : List Task ← Run.call (.describeTasks cluster tasks)
  return firstOccurrences (found.flatMap (fun t => t.containers.map (·.name)))

/-- How far a deployment of a service has been rolled out, and why. -/
def rolloutState (cluster service deployment : String) :
    Run σ (RolloutState × Option String) := do
  let unavailable (reason : String) : Failure := .rolloutStateUnavailable service reason
  match ← Run.attempt (Run.call (.describeServices cluster service)) with
  | .error e => Run.fail (unavailable e.message)
  | .ok found =>
    let deployments : List Deployment := found
    match deployments.find? (fun d => d.id == deployment) with
    | none => Run.fail (unavailable ("deployment " ++ deployment ++ " not found"))
    | some d =>
      match d.rolloutState with
      | none => Run.fail (unavailable ("deployment " ++ deployment ++ " has no rollout state"))
      | some raw => return (.ofName raw, d.rolloutStateReason)

/-! ### Waits -/

/-- The seconds between attempts of the short waits. -/
def retrySeconds : Nat := 3

/-- The wait until a task of a family runs. -/
def awaitTask (cluster family : String) : Run σ (List String) := do
  let probe (_ : Unit) : Run σ (Attempt (List String) Unit) := do
    let arns ← taskArns cluster (.runningForFamily family)
    return if arns.isEmpty then .again () else .done arns
  match ← Run.poll (.seconds retrySeconds (retrySeconds * 20)) () probe with
  | .done arns => return arns
  | .timedOut _ _ => Run.fail (.ecs "ECS task did not register in time")

/-- The agent through which commands are run in a container. -/
def execAgent : String := "ExecuteCommandAgent"

/-- The state of the agent of the first container of the first task. -/
def execStatus (tasks : List Task) : Option String := do
  let task ← tasks.head?
  let container ← task.containers.head?
  let agent ← container.managedAgents.find? (fun a => a.name == execAgent)
  agent.lastStatus

/-- The wait until commands can be run in a container. -/
def awaitExec (cluster : String) (tasks : List String) : Run σ Unit := do
  if tasks.isEmpty then Run.fail (.config "No task ARNs provided")
  else
    let probe (_ : Unit) : Run σ (Attempt Unit Unit) := do
      let found : List Task ← Run.call (.describeTasks cluster tasks)
      return if execStatus found = some "RUNNING" then .done () else .again ()
    match ← Run.poll (.seconds retrySeconds (retrySeconds * 25)) () probe with
    | .done () => return ()
    | .timedOut _ _ => Run.fail .execAgentNotRunning

end Cutover.Service
