/-
**Containers as they are registered.**

The library of the container service has its own records for what a container is made of.  A record
is built from fields that may be unset; one that has to have a field is not built without it, and a
number that has to be there is 0 when it is unset.  Lists and texts by name that are empty are left
unset, but for ports, variables, secrets and the options of a log.

Main definitions:

* `Cutover.Wire.ContainerDefinition` and the records inside it, each with its `build`;
* `Cutover.Wire.ContainerDefinition.ofDefinition` — the container that is registered.
-/
import Cutover.Container.Definition
import Cutover.Failure

set_option autoImplicit false

namespace Cutover.Wire

/-! ### Records -/

/-- A field that a record has to have. -/
def required {α : Type} (record field : String) : Option α → Except Failure α
  | some x => .ok x
  | none =>
    .error (.aws "RegisterTaskDefinition" none
      (field ++ " was not specified but it is required when building " ++ record))

/-- A variable in the environment of a container. -/
structure KeyValuePair where
  name : Option String
  value : Option String
deriving DecidableEq

/-- A secret that a container is given. -/
structure Secret where
  name : String
  valueFrom : String
deriving DecidableEq

/-- A secret is built with its name and its place. -/
def Secret.build (name valueFrom : Option String) : Except Failure Secret := do
  return {
    name := ← required "Secret" "name" name
    valueFrom := ← required "Secret" "value_from" valueFrom }

/-- A port that a container listens on. -/
structure PortMapping where
  containerPort : Option Int32
  hostPort : Option Int32
  protocol : Option String
deriving DecidableEq

/-- Where the log of a container goes. -/
structure LogConfiguration where
  logDriver : String
  options : Option (Dict String)
  secretOptions : Option (List Secret)
deriving DecidableEq

/-- Where a log goes is built with its driver. -/
def LogConfiguration.build (logDriver : Option String) (options : Option (Dict String))
    (secretOptions : Option (List Secret)) : Except Failure LogConfiguration := do
  return {
    logDriver := ← required "LogConfiguration" "log_driver" logDriver
    options
    secretOptions }

/-- How the health of a container is checked. -/
structure HealthCheck where
  command : List String
  interval : Option Int32
  timeout : Option Int32
  retries : Option Int32
  startPeriod : Option Int32
deriving DecidableEq

/-- How health is checked is built with its command. -/
def HealthCheck.build (command : Option (List String))
    (interval timeout retries startPeriod : Option Int32) : Except Failure HealthCheck := do
  return {
    command := ← required "HealthCheck" "command" command
    interval
    timeout
    retries
    startPeriod }

/-- A container that has to be in a condition first. -/
structure ContainerDependency where
  containerName : String
  condition : String
deriving DecidableEq

/-- A dependency is built with its container and its condition. -/
def ContainerDependency.build (containerName condition : Option String) :
    Except Failure ContainerDependency := do
  return {
    containerName := ← required "ContainerDependency" "container_name" containerName
    condition := ← required "ContainerDependency" "condition" condition }

/-- A mounted volume. -/
structure MountPoint where
  sourceVolume : Option String
  containerPath : Option String
  readOnly : Option Bool
deriving DecidableEq

/-- A limit on a resource. -/
structure Ulimit where
  name : String
  softLimit : Int32
  hardLimit : Int32
deriving DecidableEq

/-- A limit is built with its name. -/
def Ulimit.build (name : Option String) (softLimit hardLimit : Option Int32) :
    Except Failure Ulimit := do
  return {
    name := ← required "Ulimit" "name" name
    softLimit := softLimit.getD 0
    hardLimit := hardLimit.getD 0 }

/-- The settings of a log router. -/
structure FirelensConfiguration where
  type : String
  options : Option (Dict String)
deriving DecidableEq

/-- A log router is built with its type. -/
def FirelensConfiguration.build (type : Option String) (options : Option (Dict String)) :
    Except Failure FirelensConfiguration := do
  return { type := ← required "FirelensConfiguration" "type" type, options }

/-- A container.  Its processor share is a number that has to be there. -/
structure ContainerDefinition where
  name : Option String
  image : Option String
  essential : Option Bool
  cpu : Int32
  memory : Option Int32
  memoryReservation : Option Int32
  portMappings : Option (List PortMapping)
  environment : Option (List KeyValuePair)
  secrets : Option (List Secret)
  command : Option (List String)
  entryPoint : Option (List String)
  workingDirectory : Option String
  user : Option String
  readonlyRootFilesystem : Option Bool
  healthCheck : Option HealthCheck
  dependsOn : Option (List ContainerDependency)
  mountPoints : Option (List MountPoint)
  dockerLabels : Option (Dict String)
  ulimits : Option (List Ulimit)
  startTimeout : Option Int32
  stopTimeout : Option Int32
  logConfiguration : Option LogConfiguration
  firelensConfiguration : Option FirelensConfiguration
deriving DecidableEq

/-! ### Conversion -/

section

variable {α β : Type}

/-- A list that is left unset when it is empty. -/
def unlessEmpty (xs : List α) : Option (List α) := if xs.isEmpty then none else some xs

/-- Texts by name that are left unset when there are none. -/
def textsUnlessEmpty (d : Dict String) : Option (Dict String) := if d.isEmpty then none else some d

/-- The conversions of all items, or the first failure. -/
def convertAll (convert : α → Except Failure β) : List α → Except Failure (List β)
  | [] => .ok []
  | x :: xs => do
    let y ← convert x
    let ys ← convertAll convert xs
    return y :: ys

/-- The conversion of what is set. -/
def convertSet (convert : α → Except Failure β) : Option α → Except Failure (Option β)
  | none => .ok none
  | some x => do return some (← convert x)

end

/-- The variable that is registered. -/
def KeyValuePair.ofKeyValue (x : Container.KeyValue) : KeyValuePair := ⟨some x.name, some x.value⟩

/-- The secret that is registered. -/
def Secret.ofSecret (x : Container.Secret) : Except Failure Secret :=
  Secret.build (some x.name) (some x.valueFrom)

/-- The port that is registered. -/
def PortMapping.ofPortMapping (x : Container.PortMapping) : PortMapping :=
  ⟨some x.containerPort, x.hostPort, x.protocol⟩

/-- Where the log goes that is registered. -/
def LogConfiguration.ofLogConfiguration (x : Container.LogConfiguration) :
    Except Failure LogConfiguration := do
  let secretOptions ← convertAll Secret.ofSecret x.secretOptions
  LogConfiguration.build (some x.logDriver) (some x.options) (unlessEmpty secretOptions)

/-- How health is checked. -/
def HealthCheck.ofHealthCheck (x : Container.HealthCheck) : Except Failure HealthCheck :=
  HealthCheck.build (some x.command) x.interval x.timeout x.retries x.startPeriod

/-- The dependency that is registered. -/
def ContainerDependency.ofDependency (x : Container.Dependency) :
    Except Failure ContainerDependency :=
  ContainerDependency.build (some x.containerName) (some x.condition)

/-- The volume that is registered. -/
def MountPoint.ofMountPoint (x : Container.MountPoint) : MountPoint :=
  ⟨x.sourceVolume, x.containerPath, x.readOnly⟩

/-- The limit that is registered. -/
def Ulimit.ofUlimit (x : Container.Ulimit) : Except Failure Ulimit :=
  Ulimit.build (some x.name) (some x.softLimit) (some x.hardLimit)

/-- The log router that is registered. -/
def FirelensConfiguration.ofFirelensConfiguration (x : Container.FirelensConfiguration) :
    Except Failure FirelensConfiguration :=
  FirelensConfiguration.build (some x.type) (textsUnlessEmpty x.options)

/-- The container that is registered, or the first record of it that cannot be built. -/
def ContainerDefinition.ofDefinition (x : Container.Definition) :
    Except Failure ContainerDefinition := do
  let secrets ← convertAll Secret.ofSecret x.secrets
  let logConfiguration ← convertSet LogConfiguration.ofLogConfiguration x.logConfiguration
  let healthCheck ← convertSet HealthCheck.ofHealthCheck x.healthCheck
  let dependsOn ← convertAll ContainerDependency.ofDependency x.dependsOn
  let mountPoints := x.mountPoints.map MountPoint.ofMountPoint
  let ulimits ← convertAll Ulimit.ofUlimit x.ulimits
  let firelensConfiguration ←
    convertSet FirelensConfiguration.ofFirelensConfiguration x.firelensConfiguration
  return {
    name := some x.name
    image := some x.image
    essential := x.essential
    cpu := x.cpu.getD 0
    memory := x.memory
    memoryReservation := x.memoryReservation
    portMappings := some (x.portMappings.map PortMapping.ofPortMapping)
    environment := some (x.environment.map KeyValuePair.ofKeyValue)
    secrets := some secrets
    command := unlessEmpty x.command
    entryPoint := unlessEmpty x.entryPoint
    workingDirectory := x.workingDirectory
    user := x.user
    readonlyRootFilesystem := x.readonlyRootFilesystem
    healthCheck
    dependsOn := unlessEmpty dependsOn
    mountPoints := unlessEmpty mountPoints
    dockerLabels := textsUnlessEmpty x.dockerLabels
    ulimits := unlessEmpty ulimits
    startTimeout := x.startTimeout
    stopTimeout := x.stopTimeout
    logConfiguration
    firelensConfiguration }

end Cutover.Wire
