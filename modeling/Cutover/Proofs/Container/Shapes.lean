/-
**The records of a container template.**

Ten records make up a template.  The fields of each are listed here with the way in which they may
be left out, and the codec of each keeps to its list: no setting is lost when it is written or read,
and none is read that is not in the list.

Main definitions:

* `Cutover.Container.Definition.shape` and the shapes of the records inside a container;
* `Cutover.Container.templateShape` — the shape of a template.

Main results:

* `Cutover.Container.definitionCodec_keeps` — the codec of a container keeps to its shape;
* `Cutover.Container.templateCodec_keeps` — **so does that of a template**.
-/
import Cutover.Proofs.Json.Columns
import Cutover.Container.Codec

set_option autoImplicit false

namespace Cutover.Container

open Json (Codec Column Shape Slot)
open Json.Codec (keeps_text keeps_int32 keeps_flag)

/-! ### Variables and secrets -/

/-- The fields of a variable. -/
def KeyValue.shape : Shape := .table [("name", .required, .leaf), ("value", .required, .leaf)]

def KeyValue.columns : List (Column KeyValue) := [⟨nameSlot, name⟩, ⟨valueSlot, value⟩]

theorem keyValueCodec_isRecord : keyValueCodec.IsRecord KeyValue.columns :=
  Codec.isRecord_pair (fun _ => rfl) (fun _ => rfl) (fun _ => rfl) (fun _ _ => rfl) fun _ _ => rfl

theorem keyValueCodec_keeps : keyValueCodec.Keeps KeyValue.shape :=
  keyValueCodec_isRecord.keeps
    (.cons ⟨rfl, Slot.keeps_required _ keeps_text⟩ <|
      .cons ⟨rfl, Slot.keeps_required _ keeps_text⟩ .nil)
    (by decide)

/-- The fields of a secret. -/
def Secret.shape : Shape := .table [("name", .required, .leaf), ("valueFrom", .required, .leaf)]

def Secret.columns : List (Column Secret) := [⟨nameSlot, name⟩, ⟨valueFromSlot, valueFrom⟩]

theorem secretCodec_isRecord : secretCodec.IsRecord Secret.columns :=
  Codec.isRecord_pair (fun _ => rfl) (fun _ => rfl) (fun _ => rfl) (fun _ _ => rfl) fun _ _ => rfl

theorem secretCodec_keeps : secretCodec.Keeps Secret.shape :=
  secretCodec_isRecord.keeps
    (.cons ⟨rfl, Slot.keeps_required _ keeps_text⟩ <|
      .cons ⟨rfl, Slot.keeps_required _ keeps_text⟩ .nil)
    (by decide)

/-! ### Ports, logs, health -/

/-- The fields of a port. -/
def PortMapping.shape : Shape := .table [
  ("containerPort", .required, .leaf), ("hostPort", .optional, .leaf),
  ("protocol", .optional, .leaf)]

def PortMapping.columns : List (Column PortMapping) :=
  [⟨containerPortSlot, containerPort⟩, ⟨hostPortSlot, hostPort⟩, ⟨protocolSlot, protocol⟩]

theorem portMappingCodec_isRecord : portMappingCodec.IsRecord PortMapping.columns :=
  Codec.isRecord_triple (fun _ => rfl) (fun _ => rfl) (fun _ => rfl) (fun _ _ _ => rfl)
    (fun _ _ _ => rfl) fun _ _ _ => rfl

theorem portMappingCodec_keeps : portMappingCodec.Keeps PortMapping.shape :=
  portMappingCodec_isRecord.keeps
    (.cons ⟨rfl, Slot.keeps_required _ keeps_int32⟩ <|
      .cons ⟨rfl, Slot.keeps_optional _ keeps_int32⟩ <|
      .cons ⟨rfl, Slot.keeps_optional _ keeps_text⟩ .nil)
    (by decide)

/-- The fields of where a log goes. -/
def LogConfiguration.shape : Shape := .table [
  ("logDriver", .required, .leaf), ("options", .omittable, .leaf),
  ("secretOptions", .omittable, .list Secret.shape)]

def LogConfiguration.columns : List (Column LogConfiguration) :=
  [⟨logDriverSlot, logDriver⟩, ⟨optionsSlot, options⟩, ⟨secretOptionsSlot, secretOptions⟩]

theorem logConfigurationCodec_isRecord :
    logConfigurationCodec.IsRecord LogConfiguration.columns :=
  Codec.isRecord_triple (fun _ => rfl) (fun _ => rfl) (fun _ => rfl) (fun _ _ _ => rfl)
    (fun _ _ _ => rfl) fun _ _ _ => rfl

theorem logConfigurationCodec_keeps : logConfigurationCodec.Keeps LogConfiguration.shape :=
  logConfigurationCodec_isRecord.keeps
    (.cons ⟨rfl, Slot.keeps_required _ keeps_text⟩ <|
      .cons ⟨rfl, Slot.keeps_texts _⟩ <|
      .cons ⟨rfl, Slot.keeps_list _ secretCodec_keeps⟩ .nil)
    (by decide)

/-- The fields of how health is checked. -/
def HealthCheck.shape : Shape := .table [
  ("command", .required, .list .leaf), ("interval", .optional, .leaf),
  ("timeout", .optional, .leaf), ("retries", .optional, .leaf), ("startPeriod", .optional, .leaf)]

def HealthCheck.columns : List (Column HealthCheck) :=
  [⟨commandSlot, command⟩, ⟨intervalSlot, interval⟩, ⟨timeoutSlot, timeout⟩,
    ⟨retriesSlot, retries⟩, ⟨startPeriodSlot, startPeriod⟩]

theorem healthCheckCodec_isRecord : healthCheckCodec.IsRecord HealthCheck.columns where
  encode_eq _ := rfl
  decode_eq_ok_iff := by
    intro v x
    simp only [healthCheckCodec, bind_eq_ok_iff, HealthCheck.columns, List.forall_mem_cons]
    refine exists_congr fun m => and_congr_right fun _ => ?_
    constructor
    · rintro ⟨_, h1, _, h2, _, h3, _, h4, _, h5, h⟩
      cases h
      exact ⟨h1, h2, h3, h4, h5, fun _ => nofun⟩
    · rintro ⟨h1, h2, h3, h4, h5, _⟩
      exact ⟨_, h1, _, h2, _, h3, _, h4, _, h5, rfl⟩

theorem healthCheckCodec_keeps : healthCheckCodec.Keeps HealthCheck.shape :=
  healthCheckCodec_isRecord.keeps
    (.cons ⟨rfl, Slot.keeps_required _ keeps_text.listOf⟩ <|
      .cons ⟨rfl, Slot.keeps_optional _ keeps_int32⟩ <|
      .cons ⟨rfl, Slot.keeps_optional _ keeps_int32⟩ <|
      .cons ⟨rfl, Slot.keeps_optional _ keeps_int32⟩ <|
      .cons ⟨rfl, Slot.keeps_optional _ keeps_int32⟩ .nil)
    (by decide)

/-! ### Order, volumes, limits, log routers -/

/-- The fields of a container that has to be there first. -/
def Dependency.shape : Shape := .table [
  ("containerName", .required, .leaf), ("condition", .required, .leaf)]

def Dependency.columns : List (Column Dependency) :=
  [⟨containerNameSlot, containerName⟩, ⟨conditionSlot, condition⟩]

theorem dependencyCodec_isRecord : dependencyCodec.IsRecord Dependency.columns :=
  Codec.isRecord_pair (fun _ => rfl) (fun _ => rfl) (fun _ => rfl) (fun _ _ => rfl) fun _ _ => rfl

theorem dependencyCodec_keeps : dependencyCodec.Keeps Dependency.shape :=
  dependencyCodec_isRecord.keeps
    (.cons ⟨rfl, Slot.keeps_required _ keeps_text⟩ <|
      .cons ⟨rfl, Slot.keeps_required _ keeps_text⟩ .nil)
    (by decide)

/-- The fields of a mounted volume. -/
def MountPoint.shape : Shape := .table [
  ("sourceVolume", .optional, .leaf), ("containerPath", .optional, .leaf),
  ("readOnly", .optional, .leaf)]

def MountPoint.columns : List (Column MountPoint) :=
  [⟨sourceVolumeSlot, sourceVolume⟩, ⟨containerPathSlot, containerPath⟩, ⟨readOnlySlot, readOnly⟩]

theorem mountPointCodec_isRecord : mountPointCodec.IsRecord MountPoint.columns :=
  Codec.isRecord_triple (fun _ => rfl) (fun _ => rfl) (fun _ => rfl) (fun _ _ _ => rfl)
    (fun _ _ _ => rfl) fun _ _ _ => rfl

theorem mountPointCodec_keeps : mountPointCodec.Keeps MountPoint.shape :=
  mountPointCodec_isRecord.keeps
    (.cons ⟨rfl, Slot.keeps_optional _ keeps_text⟩ <|
      .cons ⟨rfl, Slot.keeps_optional _ keeps_text⟩ <|
      .cons ⟨rfl, Slot.keeps_optional _ keeps_flag⟩ .nil)
    (by decide)

/-- The fields of a limit. -/
def Ulimit.shape : Shape := .table [
  ("name", .required, .leaf), ("softLimit", .required, .leaf), ("hardLimit", .required, .leaf)]

def Ulimit.columns : List (Column Ulimit) :=
  [⟨nameSlot, name⟩, ⟨softLimitSlot, softLimit⟩, ⟨hardLimitSlot, hardLimit⟩]

theorem ulimitCodec_isRecord : ulimitCodec.IsRecord Ulimit.columns :=
  Codec.isRecord_triple (fun _ => rfl) (fun _ => rfl) (fun _ => rfl) (fun _ _ _ => rfl)
    (fun _ _ _ => rfl) fun _ _ _ => rfl

theorem ulimitCodec_keeps : ulimitCodec.Keeps Ulimit.shape :=
  ulimitCodec_isRecord.keeps
    (.cons ⟨rfl, Slot.keeps_required _ keeps_text⟩ <|
      .cons ⟨rfl, Slot.keeps_required _ keeps_int32⟩ <|
      .cons ⟨rfl, Slot.keeps_required _ keeps_int32⟩ .nil)
    (by decide)

/-- The fields of a log router. -/
def FirelensConfiguration.shape : Shape := .table [
  ("type", .required, .leaf), ("options", .omittable, .leaf)]

def FirelensConfiguration.columns : List (Column FirelensConfiguration) :=
  [⟨typeSlot, type⟩, ⟨optionsSlot, options⟩]

theorem firelensConfigurationCodec_isRecord :
    firelensConfigurationCodec.IsRecord FirelensConfiguration.columns :=
  Codec.isRecord_pair (fun _ => rfl) (fun _ => rfl) (fun _ => rfl) (fun _ _ => rfl) fun _ _ => rfl

theorem firelensConfigurationCodec_keeps :
    firelensConfigurationCodec.Keeps FirelensConfiguration.shape :=
  firelensConfigurationCodec_isRecord.keeps
    (.cons ⟨rfl, Slot.keeps_required _ keeps_text⟩ <|
      .cons ⟨rfl, Slot.keeps_texts _⟩ .nil)
    (by decide)

/-! ### Containers -/

/-- The fields of a container. -/
def Definition.shape : Shape := .table [
  ("name", .required, .leaf), ("image", .required, .leaf), ("essential", .optional, .leaf),
  ("cpu", .optional, .leaf), ("memory", .optional, .leaf), ("memoryReservation", .optional, .leaf),
  ("portMappings", .omittable, .list PortMapping.shape),
  ("environment", .omittable, .list KeyValue.shape), ("secrets", .omittable, .list Secret.shape),
  ("command", .omittable, .list .leaf), ("entryPoint", .omittable, .list .leaf),
  ("workingDirectory", .optional, .leaf), ("user", .optional, .leaf),
  ("readonlyRootFilesystem", .optional, .leaf), ("healthCheck", .optional, HealthCheck.shape),
  ("dependsOn", .omittable, .list Dependency.shape),
  ("mountPoints", .omittable, .list MountPoint.shape), ("dockerLabels", .omittable, .leaf),
  ("ulimits", .omittable, .list Ulimit.shape), ("startTimeout", .optional, .leaf),
  ("stopTimeout", .optional, .leaf), ("logConfiguration", .optional, LogConfiguration.shape),
  ("firelensConfiguration", .optional, FirelensConfiguration.shape)]

open Definition in
def Definition.columns : List (Column Definition) := [
  ⟨nameSlot, name⟩, ⟨imageSlot, image⟩, ⟨essentialSlot, essential⟩, ⟨cpuSlot, cpu⟩,
  ⟨memorySlot, memory⟩, ⟨memoryReservationSlot, memoryReservation⟩,
  ⟨portMappingsSlot, portMappings⟩, ⟨environmentSlot, environment⟩, ⟨secretsSlot, secrets⟩,
  ⟨commandSlot, command⟩, ⟨entryPointSlot, entryPoint⟩,
  ⟨workingDirectorySlot, workingDirectory⟩, ⟨userSlot, user⟩,
  ⟨readonlyRootFilesystemSlot, readonlyRootFilesystem⟩, ⟨healthCheckSlot, healthCheck⟩,
  ⟨dependsOnSlot, dependsOn⟩, ⟨mountPointsSlot, mountPoints⟩, ⟨dockerLabelsSlot, dockerLabels⟩,
  ⟨ulimitsSlot, ulimits⟩, ⟨startTimeoutSlot, startTimeout⟩, ⟨stopTimeoutSlot, stopTimeout⟩,
  ⟨logConfigurationSlot, logConfiguration⟩, ⟨firelensConfigurationSlot, firelensConfiguration⟩]

theorem definitionCodec_isRecord : definitionCodec.IsRecord Definition.columns where
  encode_eq _ := rfl
  decode_eq_ok_iff := by
    intro v x
    simp only [definitionCodec, bind_eq_ok_iff, Definition.columns, List.forall_mem_cons]
    refine exists_congr fun m => and_congr_right fun _ => ?_
    constructor
    · rintro ⟨_, h1, _, h2, _, h3, _, h4, _, h5, _, h6, _, h7, _, h8, _, h9, _, h10, _, h11, _, h12,
        _, h13, _, h14, _, h15, _, h16, _, h17, _, h18, _, h19, _, h20, _, h21, _, h22, _, h23, h⟩
      cases h
      exact ⟨h1, h2, h3, h4, h5, h6, h7, h8, h9, h10, h11, h12, h13, h14, h15, h16, h17, h18, h19,
        h20, h21, h22, h23, fun _ => nofun⟩
    · rintro ⟨h1, h2, h3, h4, h5, h6, h7, h8, h9, h10, h11, h12, h13, h14, h15, h16, h17, h18, h19,
        h20, h21, h22, h23, _⟩
      exact ⟨_, h1, _, h2, _, h3, _, h4, _, h5, _, h6, _, h7, _, h8, _, h9, _, h10, _, h11, _, h12,
        _, h13, _, h14, _, h15, _, h16, _, h17, _, h18, _, h19, _, h20, _, h21, _, h22, _, h23, rfl⟩

theorem definitionCodec_keeps : definitionCodec.Keeps Definition.shape :=
  definitionCodec_isRecord.keeps
    (.cons ⟨rfl, Slot.keeps_required _ keeps_text⟩ <|
      .cons ⟨rfl, Slot.keeps_required _ keeps_text⟩ <|
      .cons ⟨rfl, Slot.keeps_optional _ keeps_flag⟩ <|
      .cons ⟨rfl, Slot.keeps_optional _ keeps_int32⟩ <|
      .cons ⟨rfl, Slot.keeps_optional _ keeps_int32⟩ <|
      .cons ⟨rfl, Slot.keeps_optional _ keeps_int32⟩ <|
      .cons ⟨rfl, Slot.keeps_list _ portMappingCodec_keeps⟩ <|
      .cons ⟨rfl, Slot.keeps_list _ keyValueCodec_keeps⟩ <|
      .cons ⟨rfl, Slot.keeps_list _ secretCodec_keeps⟩ <|
      .cons ⟨rfl, Slot.keeps_list _ keeps_text⟩ <|
      .cons ⟨rfl, Slot.keeps_list _ keeps_text⟩ <|
      .cons ⟨rfl, Slot.keeps_optional _ keeps_text⟩ <|
      .cons ⟨rfl, Slot.keeps_optional _ keeps_text⟩ <|
      .cons ⟨rfl, Slot.keeps_optional _ keeps_flag⟩ <|
      .cons ⟨rfl, Slot.keeps_optional _ healthCheckCodec_keeps⟩ <|
      .cons ⟨rfl, Slot.keeps_list _ dependencyCodec_keeps⟩ <|
      .cons ⟨rfl, Slot.keeps_list _ mountPointCodec_keeps⟩ <|
      .cons ⟨rfl, Slot.keeps_texts _⟩ <|
      .cons ⟨rfl, Slot.keeps_list _ ulimitCodec_keeps⟩ <|
      .cons ⟨rfl, Slot.keeps_optional _ keeps_int32⟩ <|
      .cons ⟨rfl, Slot.keeps_optional _ keeps_int32⟩ <|
      .cons ⟨rfl, Slot.keeps_optional _ logConfigurationCodec_keeps⟩ <|
      .cons ⟨rfl, Slot.keeps_optional _ firelensConfigurationCodec_keeps⟩
        .nil)
    (by decide)

/-- The shape of a template. -/
def templateShape : Shape := .list Definition.shape

/-- **A template keeps its settings.** -/
theorem templateCodec_keeps : templateCodec.Keeps templateShape := definitionCodec_keeps.listOf

end Cutover.Container
