/-
**Deploying a service.**

A deployment registers a task definition with the new image tag, moves the service to it, waits
until its tasks run, and then follows the logs until the rollout has ended one way or the other.

Main definitions:

* `Cutover.Service.awaitRunningTasks` — the wait for the tasks of a deployment;
* `Cutover.Service.monitorRollout` — the logs and the end of the rollout;
* `Cutover.Service.deploy` — the whole deployment.
-/
import Cutover.Service.Application
import Cutover.Service.Cluster
import Cutover.Service.ImageTag
import Cutover.Service.Logs
import Cutover.Service.Template

set_option autoImplicit false

namespace Cutover.Service

variable {σ : Type}

/-- The seconds in which the tasks of a deployment have to run. -/
def taskStartTimeout : Nat := 600

/-- The seconds in which a rollout has to end. -/
def rolloutTimeout : Nat := 600

/-- The wait until as many tasks of a deployment run as are expected. -/
def awaitRunningTasks (cluster service deployment : String) (expected : Nat) :
    Run σ (List String) := do
  Run.info ("Waiting for " ++ toString expected ++ " RUNNING ECS task(s) for deployment " ++
    deployment)
  let probe (_ : Nat) : Run σ (Attempt (List String) Nat) := do
    let arns ← taskArns cluster (.runningForDeployment deployment)
    return if expected ≤ arns.length then .done arns else .again arns.length
  match ← Run.poll (.withTimeout taskStartTimeout) 0 probe with
  | .done arns => return arns
  | .timedOut found waited =>
    Run.fail (.taskStartTimeout service cluster expected found waited)

/-! ### The rollout -/

/-- Events are written, each on a line. -/
def writeEvents : List LogEvent → Run σ Unit
  | [] => return ()
  | e :: rest => do
    let () ← Run.call (.writeLine (formatEvent e))
    writeEvents rest

/-- The moment from which on events are new, after those that were written. -/
def nextStart (start : Int) (written : List LogEvent) : Int :=
  match written.getLast? with
  | some e => e.timestamp + 1
  | none => start

/-- New events are written; the result is the moment from which on further events are new. -/
def tailLogs (group : String) (streams : List String) (start : Int) : Run σ Int := do
  if streams.isEmpty then return start
  else
    let events ← eventsSince group streams start
    if events.isEmpty then return start
    else
      writeEvents events
      let () ← Run.call .flushOutput
      return nextStart start events

/-- One look at the logs and then at the rollout. -/
def rolloutPass (cluster service deployment group : String) (streams : List String)
    (start : Int) : Run σ (Attempt Unit Int) := do
  let next ← tailLogs group streams start
  let (state, reason) ← rolloutState cluster service deployment
  match state with
  | .completed => return .done ()
  | .failed => Run.fail (.deploymentFailed service (reason.getD "unknown reason"))
  | .inProgress | .other _ => return .again next

/-- The logs are followed until the rollout has ended. -/
def monitorRollout (cluster service deployment group : String) (streams : List String) :
    Run σ Unit := do
  match ← Run.poll (.withTimeout rolloutTimeout) 0
      (rolloutPass cluster service deployment group streams) with
  | .done () => Run.info ("ECS deployment of " ++ service ++ " completed")
  | .timedOut _ waited => Run.fail (.deploymentTimeout service waited)

/-! ### The deployment -/

/-- What is deployed, and where. -/
structure Target where
  application : String
  environment : String
  service : String
deriving DecidableEq

/-- The template of a service with the tag put in, with its configuration and its account. -/
def prepare (files : Files) (baseDir : String) (t : Target) (tag : String) :
    Run σ (ServiceConfig × String × List Container.Definition) := do
  let config ← Run.ofExcept (ServiceConfig.load files baseDir t.environment t.service)
  let app ← Application.load t.application
  let environment ← Run.ofExcept (app.environment t.environment)
  let template ← containerDefinitions t.application t.environment t.service
  let containers ← Run.ofExcept (applyImageTag t.service tag template)
  return (config, environment.accountId, containers)

/-- The log streams of running tasks, once they are there. -/
def awaitLogs (cluster service group : String) (tasks : List String) :
    Run σ (List String) := do
  if tasks.isEmpty then
    Run.report .info "Service scaled to zero, no logs to follow" [("service", service)]
    return []
  else
    let streams := expectedLogStreams tasks (← containerNames cluster tasks)
    awaitStreams group streams
    return streams

/-- A service is deployed with the given image tag or that of the environment. -/
def deploy (files : Files) (baseDir : String) (t : Target)
    (givenTag environmentTag : Option String) : Run σ Unit := do
  let tag ← Run.ofExcept (resolveImageTag givenTag environmentTag)
  let (config, accountId, containers) ← prepare files baseDir t tag
  let definition ←
    registerTaskDefinition t.application t.environment accountId config containers
  let cluster := clusterName t.application t.environment
  let service := ecsName t.application t.environment config.name
  let deployment ← updateService cluster service definition
  Run.report .info "Updated ECS service"
    [("service", service), ("deployment", deployment), ("image_tag", tag)]
  let tasks ← awaitRunningTasks cluster service deployment config.count
  let group := logGroup t.application t.environment t.service
  let streams ← awaitLogs cluster service group tasks
  monitorRollout cluster service deployment group streams

end Cutover.Service
