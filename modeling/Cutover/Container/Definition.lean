/-
**Containers of a task.**

A task of a service runs containers.  Their settings are stored as a template, in which images
name a placeholder where the tag of the deployed version goes.

Main definitions:

* `Cutover.Container.Definition` — the settings of one container;
* `Cutover.TaskDefinition` — what a task is made of;
* `Cutover.Task`, `Cutover.Deployment`, `Cutover.TaskFilter`, `Cutover.RolloutState` — what runs.
-/
import Cutover.Dict

set_option autoImplicit false

namespace Cutover

namespace Container

/-- A variable in the environment of a container. -/
structure KeyValue where
  name : String
  value : String
deriving DecidableEq

/-- A secret that a container is given, and where it is stored. -/
structure Secret where
  name : String
  valueFrom : String
deriving DecidableEq

/-- A port that a container listens on. -/
structure PortMapping where
  containerPort : Int32
  hostPort : Option Int32
  protocol : Option String
deriving DecidableEq

/-- Where the log of a container goes. -/
structure LogConfiguration where
  logDriver : String
  options : Dict String
  secretOptions : List Secret
deriving DecidableEq

/-- How the health of a container is checked; times are in seconds. -/
structure HealthCheck where
  command : List String
  interval : Option Int32
  timeout : Option Int32
  retries : Option Int32
  startPeriod : Option Int32
deriving DecidableEq

/-- A container that has to be in a condition before this one starts. -/
structure Dependency where
  containerName : String
  condition : String
deriving DecidableEq

/-- A volume that is mounted into a container. -/
structure MountPoint where
  sourceVolume : Option String
  containerPath : Option String
  readOnly : Option Bool
deriving DecidableEq

/-- A limit on a resource of a container. -/
structure Ulimit where
  name : String
  softLimit : Int32
  hardLimit : Int32
deriving DecidableEq

/-- The settings of a container that routes logs. -/
structure FirelensConfiguration where
  type : String
  options : Dict String
deriving DecidableEq

/-- The settings of a container. -/
structure Definition where
  name : String
  image : String
  essential : Option Bool
  cpu : Option Int32
  memory : Option Int32
  memoryReservation : Option Int32
  portMappings : List PortMapping
  environment : List KeyValue
  secrets : List Secret
  command : List String
  entryPoint : List String
  workingDirectory : Option String
  user : Option String
  readonlyRootFilesystem : Option Bool
  healthCheck : Option HealthCheck
  dependsOn : List Dependency
  mountPoints : List MountPoint
  dockerLabels : Dict String
  ulimits : List Ulimit
  startTimeout : Option Int32
  stopTimeout : Option Int32
  logConfiguration : Option LogConfiguration
  firelensConfiguration : Option FirelensConfiguration
deriving DecidableEq

end Container

/-- What a task is made of. -/
structure TaskDefinition where
  family : String
  taskRoleArn : String
  executionRoleArn : String
  networkMode : String
  requiresCompatibilities : List String
  cpu : String
  memory : String
  containerDefinitions : List Container.Definition
deriving DecidableEq

/-! ### What runs -/

/-- Which tasks are listed. -/
structure TaskFilter where
  family : Option String
  startedBy : Option String
  desiredStatus : Option String
deriving DecidableEq

namespace TaskFilter

/-- The running tasks that a deployment has started. -/
def runningForDeployment (id : String) : TaskFilter := ⟨none, some id, some "RUNNING"⟩

/-- The running tasks of a family. -/
def runningForFamily (family : String) : TaskFilter := ⟨some family, none, some "RUNNING"⟩

end TaskFilter

/-- A cluster of containers. -/
structure Cluster where
  arn : String
  name : String
deriving DecidableEq

/-- An agent beside a container, and the state it was last seen in. -/
structure ManagedAgent where
  name : String
  lastStatus : Option String
deriving DecidableEq

/-- A container that runs in a task. -/
structure RunningContainer where
  name : String
  managedAgents : List ManagedAgent
deriving DecidableEq

/-- A task that runs. -/
structure Task where
  arn : String
  containers : List RunningContainer
deriving DecidableEq

/-- One of the deployments of a service. -/
structure Deployment where
  id : String
  status : String
  rolloutState : Option String
  rolloutStateReason : Option String
deriving DecidableEq

/-- Whether a deployment is the one that the service is moving to. -/
def Deployment.isPrimary (d : Deployment) : Bool := d.status == "PRIMARY"

/-- How far a deployment has been rolled out. -/
inductive RolloutState
  | inProgress
  | completed
  | failed
  | other (raw : String)
deriving DecidableEq

namespace RolloutState

/-- The state with a name. -/
def ofName (raw : String) : RolloutState :=
  if raw = "IN_PROGRESS" then .inProgress
  else if raw = "COMPLETED" then .completed
  else if raw = "FAILED" then .failed
  else .other raw

/-- The name of a state. -/
def name : RolloutState → String
  | .inProgress => "IN_PROGRESS"
  | .completed => "COMPLETED"
  | .failed => "FAILED"
  | .other raw => raw

end RolloutState

end Cutover
