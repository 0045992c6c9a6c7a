/-
**Container templates as JSON.**

A template is a list of containers, in the form in which the container service takes them.  A
member that is not known is refused, so that no setting is lost without notice.

Main definitions:

* `Cutover.Container.definitionCodec` — one container;
* `Cutover.Container.templateCodec` — a template.
-/
import Cutover.Container.Definition
import Cutover.Json.Codec

set_option autoImplicit false

namespace Cutover.Container

open Json (Codec Slot Value membersOf)

/-! ### Variables and secrets -/

def KeyValue.nameSlot : Slot String := .required "name" .text
def KeyValue.valueSlot : Slot String := .required "value" .text

/-- A variable. -/
def keyValueCodec : Codec KeyValue where
  decode v := do
    let m ← membersOf [KeyValue.nameSlot.check, KeyValue.valueSlot.check] v
    return { name := ← KeyValue.nameSlot.get m, value := ← KeyValue.valueSlot.get m }
  encode x := .ofSlots [KeyValue.nameSlot.put x.name, KeyValue.valueSlot.put x.value]

def Secret.nameSlot : Slot String := .required "name" .text
def Secret.valueFromSlot : Slot String := .required "valueFrom" .text

/-- A secret. -/
def secretCodec : Codec Secret where
  decode v := do
    let m ← membersOf [Secret.nameSlot.check, Secret.valueFromSlot.check] v
    return { name := ← Secret.nameSlot.get m, valueFrom := ← Secret.valueFromSlot.get m }
  encode x := .ofSlots [Secret.nameSlot.put x.name, Secret.valueFromSlot.put x.valueFrom]

/-! ### Ports, logs, health -/

def PortMapping.containerPortSlot : Slot Int32 := .required "containerPort" .int32
def PortMapping.hostPortSlot : Slot (Option Int32) := .optional "hostPort" .int32
def PortMapping.protocolSlot : Slot (Option String) := .optional "protocol" .text

/-- A port. -/
def portMappingCodec : Codec PortMapping where
  decode v := do
    let m ← membersOf [PortMapping.containerPortSlot.check, PortMapping.hostPortSlot.check,
      PortMapping.protocolSlot.check] v
    return {
      containerPort := ← PortMapping.containerPortSlot.get m
      hostPort := ← PortMapping.hostPortSlot.get m
      protocol := ← PortMapping.protocolSlot.get m }
  encode x := .ofSlots [PortMapping.containerPortSlot.put x.containerPort,
    PortMapping.hostPortSlot.put x.hostPort, PortMapping.protocolSlot.put x.protocol]

def LogConfiguration.logDriverSlot : Slot String := .required "logDriver" .text
def LogConfiguration.optionsSlot : Slot (Dict String) := .texts "options"
def LogConfiguration.secretOptionsSlot : Slot (List Secret) := .list "secretOptions" secretCodec

/-- Where a log goes. -/
def logConfigurationCodec : Codec LogConfiguration where
  decode v := do
    let m ← membersOf [LogConfiguration.logDriverSlot.check, LogConfiguration.optionsSlot.check,
      LogConfiguration.secretOptionsSlot.check] v
    return {
      logDriver := ← LogConfiguration.logDriverSlot.get m
      options := ← LogConfiguration.optionsSlot.get m
      secretOptions := ← LogConfiguration.secretOptionsSlot.get m }
  encode x := .ofSlots [LogConfiguration.logDriverSlot.put x.logDriver,
    LogConfiguration.optionsSlot.put x.options,
    LogConfiguration.secretOptionsSlot.put x.secretOptions]

def HealthCheck.commandSlot : Slot (List String) := .required "command" (.listOf .text)
def HealthCheck.intervalSlot : Slot (Option Int32) := .optional "interval" .int32
def HealthCheck.timeoutSlot : Slot (Option Int32) := .optional "timeout" .int32
def HealthCheck.retriesSlot : Slot (Option Int32) := .optional "retries" .int32
def HealthCheck.startPeriodSlot : Slot (Option Int32) := .optional "startPeriod" .int32

/-- How health is checked. -/
def healthCheckCodec : Codec HealthCheck where
  decode v := do
    let m ← membersOf [HealthCheck.commandSlot.check, HealthCheck.intervalSlot.check,
      HealthCheck.timeoutSlot.check, HealthCheck.retriesSlot.check,
      HealthCheck.startPeriodSlot.check] v
    return {
      command := ← HealthCheck.commandSlot.get m
      interval := ← HealthCheck.intervalSlot.get m
      timeout := ← HealthCheck.timeoutSlot.get m
      retries := ← HealthCheck.retriesSlot.get m
      startPeriod := ← HealthCheck.startPeriodSlot.get m }
  encode x := .ofSlots [HealthCheck.commandSlot.put x.command,
    HealthCheck.intervalSlot.put x.interval, HealthCheck.timeoutSlot.put x.timeout,
    HealthCheck.retriesSlot.put x.retries, HealthCheck.startPeriodSlot.put x.startPeriod]

/-! ### Order, volumes, limits, log routers -/

def Dependency.containerNameSlot : Slot String := .required "containerName" .text
def Dependency.conditionSlot : Slot String := .required "condition" .text

/-- A container that has to be there first. -/
def dependencyCodec : Codec Dependency where
  decode v := do
    let m ← membersOf [Dependency.containerNameSlot.check, Dependency.conditionSlot.check] v
    return {
      containerName := ← Dependency.containerNameSlot.get m
      condition := ← Dependency.conditionSlot.get m }
  encode x := .ofSlots [Dependency.containerNameSlot.put x.containerName,
    Dependency.conditionSlot.put x.condition]

def MountPoint.sourceVolumeSlot : Slot (Option String) := .optional "sourceVolume" .text
def MountPoint.containerPathSlot : Slot (Option String) := .optional "containerPath" .text
def MountPoint.readOnlySlot : Slot (Option Bool) := .optional "readOnly" .flag

/-- A mounted volume. -/
def mountPointCodec : Codec MountPoint where
  decode v := do
    let m ← membersOf [MountPoint.sourceVolumeSlot.check, MountPoint.containerPathSlot.check,
      MountPoint.readOnlySlot.check] v
    return {
      sourceVolume := ← MountPoint.sourceVolumeSlot.get m
      containerPath := ← MountPoint.containerPathSlot.get m
      readOnly := ← MountPoint.readOnlySlot.get m }
  encode x := .ofSlots [MountPoint.sourceVolumeSlot.put x.sourceVolume,
    MountPoint.containerPathSlot.put x.containerPath, MountPoint.readOnlySlot.put x.readOnly]

def Ulimit.nameSlot : Slot String := .required "name" .text
def Ulimit.softLimitSlot : Slot Int32 := .required "softLimit" .int32
def Ulimit.hardLimitSlot : Slot Int32 := .required "hardLimit" .int32

/-- A limit. -/
def ulimitCodec : Codec Ulimit where
  decode v := do
    let m ← membersOf [Ulimit.nameSlot.check, Ulimit.softLimitSlot.check,
      Ulimit.hardLimitSlot.check] v
    return {
      name := ← Ulimit.nameSlot.get m
      softLimit := ← Ulimit.softLimitSlot.get m
      hardLimit := ← Ulimit.hardLimitSlot.get m }
  encode x := .ofSlots [Ulimit.nameSlot.put x.name, Ulimit.softLimitSlot.put x.softLimit,
    Ulimit.hardLimitSlot.put x.hardLimit]

def FirelensConfiguration.typeSlot : Slot String := .required "type" .text
def FirelensConfiguration.optionsSlot : Slot (Dict String) := .texts "options"

/-- A log router. -/
def firelensConfigurationCodec : Codec FirelensConfiguration where
  decode v := do
    let m ← membersOf [FirelensConfiguration.typeSlot.check,
      FirelensConfiguration.optionsSlot.check] v
    return {
      type := ← FirelensConfiguration.typeSlot.get m
      options := ← FirelensConfiguration.optionsSlot.get m }
  encode x := .ofSlots [FirelensConfiguration.typeSlot.put x.type,
    FirelensConfiguration.optionsSlot.put x.options]

/-! ### Containers -/

namespace Definition

def nameSlot : Slot String := .required "name" .text
def imageSlot : Slot String := .required "image" .text
def essentialSlot : Slot (Option Bool) := .optional "essential" .flag
def cpuSlot : Slot (Option Int32) := .optional "cpu" .int32
def memorySlot : Slot (Option Int32) := .optional "memory" .int32
def memoryReservationSlot : Slot (Option Int32) := .optional "memoryReservation" .int32
def portMappingsSlot : Slot (List PortMapping) := .list "portMappings" portMappingCodec
def environmentSlot : Slot (List KeyValue) := .list "environment" keyValueCodec
def secretsSlot : Slot (List Secret) := .list "secrets" secretCodec
def commandSlot : Slot (List String) := .list "command" .text
def entryPointSlot : Slot (List String) := .list "entryPoint" .text
def workingDirectorySlot : Slot (Option String) := .optional "workingDirectory" .text
def userSlot : Slot (Option String) := .optional "user" .text
def readonlyRootFilesystemSlot : Slot (Option Bool) := .optional "readonlyRootFilesystem" .flag
def healthCheckSlot : Slot (Option HealthCheck) := .optional "healthCheck" healthCheckCodec
def dependsOnSlot : Slot (List Dependency) := .list "dependsOn" dependencyCodec
def mountPointsSlot : Slot (List MountPoint) := .list "mountPoints" mountPointCodec
def dockerLabelsSlot : Slot (Dict String) := .texts "dockerLabels"
def ulimitsSlot : Slot (List Ulimit) := .list "ulimits" ulimitCodec
def startTimeoutSlot : Slot (Option Int32) := .optional "startTimeout" .int32
def stopTimeoutSlot : Slot (Option Int32) := .optional "stopTimeout" .int32
def logConfigurationSlot : Slot (Option LogConfiguration) :=
  .optional "logConfiguration" logConfigurationCodec
def firelensConfigurationSlot : Slot (Option FirelensConfiguration) :=
  .optional "firelensConfiguration" firelensConfigurationCodec

/-- The members of a container, in their order. -/
def checks : List Json.FieldCheck := [
  nameSlot.check, imageSlot.check, essentialSlot.check, cpuSlot.check, memorySlot.check,
  memoryReservationSlot.check, portMappingsSlot.check, environmentSlot.check,
  secretsSlot.check, commandSlot.check, entryPointSlot.check, workingDirectorySlot.check,
  userSlot.check, readonlyRootFilesystemSlot.check, healthCheckSlot.check,
  dependsOnSlot.check, mountPointsSlot.check, dockerLabelsSlot.check, ulimitsSlot.check,
  startTimeoutSlot.check, stopTimeoutSlot.check, logConfigurationSlot.check,
  firelensConfigurationSlot.check]

end Definition

open Definition in
/-- A container. -/
def definitionCodec : Codec Definition where
  decode v := do
    let m ← membersOf checks v
    return {
      name := ← nameSlot.get m
      image := ← imageSlot.get m
      essential := ← essentialSlot.get m
      cpu := ← cpuSlot.get m
      memory := ← memorySlot.get m
      memoryReservation := ← memoryReservationSlot.get m
      portMappings := ← portMappingsSlot.get m
      environment := ← environmentSlot.get m
      secrets := ← secretsSlot.get m
      command := ← commandSlot.get m
      entryPoint := ← entryPointSlot.get m
      workingDirectory := ← workingDirectorySlot.get m
      user := ← userSlot.get m
      readonlyRootFilesystem := ← readonlyRootFilesystemSlot.get m
      healthCheck := ← healthCheckSlot.get m
      dependsOn := ← dependsOnSlot.get m
      mountPoints := ← mountPointsSlot.get m
      dockerLabels := ← dockerLabelsSlot.get m
      ulimits := ← ulimitsSlot.get m
      startTimeout := ← startTimeoutSlot.get m
      stopTimeout := ← stopTimeoutSlot.get m
      logConfiguration := ← logConfigurationSlot.get m
      firelensConfiguration := ← firelensConfigurationSlot.get m }
  encode x := .ofSlots [
    nameSlot.put x.name, imageSlot.put x.image, essentialSlot.put x.essential,
    cpuSlot.put x.cpu, memorySlot.put x.memory,
    memoryReservationSlot.put x.memoryReservation, portMappingsSlot.put x.portMappings,
    environmentSlot.put x.environment, secretsSlot.put x.secrets, commandSlot.put x.command,
    entryPointSlot.put x.entryPoint, workingDirectorySlot.put x.workingDirectory,
    userSlot.put x.user, readonlyRootFilesystemSlot.put x.readonlyRootFilesystem,
    healthCheckSlot.put x.healthCheck, dependsOnSlot.put x.dependsOn,
    mountPointsSlot.put x.mountPoints, dockerLabelsSlot.put x.dockerLabels,
    ulimitsSlot.put x.ulimits, startTimeoutSlot.put x.startTimeout,
    stopTimeoutSlot.put x.stopTimeout, logConfigurationSlot.put x.logConfiguration,
    firelensConfigurationSlot.put x.firelensConfiguration]

/-- A template. -/
def templateCodec : Codec (List Definition) := .listOf definitionCodec

end Cutover.Container
