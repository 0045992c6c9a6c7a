/-
**A container is registered with all its settings.**

Every record that a container is registered with can be built, since each field that it has to have
is set, and each can be turned back into the part of the template that it was made from.  So two
containers that are registered alike are alike in every setting, at any depth, but for one: the
library cannot leave a processor share unset, so a container without one is registered as a
container with a share of 0.

Main definitions:

* `Cutover.Wire.Kept` — a conversion succeeds, and its result can be turned back;
* `Cutover.Wire.ContainerDefinition.restore` — the template that a container was made from.

Main results:

* `Cutover.Wire.ContainerDefinition.ofDefinition_kept` — a container is turned back into its
  template, with its share set;
* `Cutover.Wire.registered_alike_iff` — **when two containers are registered alike**;
* `Cutover.Wire.registration_ok` — every task definition can be sent.
-/
import Cutover.Wire.Message
import Mathlib.Data.List.Forall2

set_option autoImplicit false

namespace Cutover.Wire

/-! ### Conversions that can be turned back -/

section

variable {α β : Type} {convert : α → Except Failure β} {restore : β → α}

/-- A conversion succeeds on everything, and what it gives can be turned back. -/
def Kept (convert : α → Except Failure β) (restore : β → α) : Prop :=
  ∀ x, ∃ y, convert x = .ok y ∧ restore y = x

/-- If every item is converted to something that goes with it, then so is a list, one by one. -/
theorem convertAll_related {R : α → β → Prop} (h : ∀ x, ∃ y, convert x = .ok y ∧ R x y)
    (xs : List α) : ∃ ys, convertAll convert xs = .ok ys ∧ List.Forall₂ R xs ys := by
  induction xs with
  | nil => exact ⟨[], rfl, .nil⟩
  | cons x rest ih =>
      obtain ⟨y, hy, hx⟩ := h x
      obtain ⟨ys, hys, hrest⟩ := ih
      refine ⟨y :: ys, ?_, .cons hx hrest⟩
      rw [convertAll, hy, hys]
      rfl

/-- A list is kept as its items are. -/
theorem Kept.all (h : Kept convert restore) : Kept (convertAll convert) (·.map restore) := by
  intro xs
  obtain ⟨ys, hys, hall⟩ := convertAll_related h xs
  refine ⟨ys, hys, ?_⟩
  clear hys
  induction hall with
  | nil => rfl
  | cons hx _ ih => exact congrArg₂ List.cons hx ih

/-- What may be unset is kept as what is set. -/
theorem Kept.set (h : Kept convert restore) : Kept (convertSet convert) (·.map restore) := by
  intro x
  cases x with
  | none => exact ⟨none, rfl, rfl⟩
  | some x =>
      obtain ⟨y, hy, hx⟩ := h x
      refine ⟨some y, ?_, congrArg some hx⟩
      rw [convertSet, hy]
      rfl

/-- Items that can be turned back one by one can be so all together. -/
theorem map_restore {f : α → β} (h : ∀ x, restore (f x) = x) (xs : List α) :
    (xs.map f).map restore = xs := by
  rw [List.map_map]
  exact List.map_id'' h xs

@[simp] theorem getD_unlessEmpty (xs : List α) : (unlessEmpty xs).getD [] = xs := by
  cases xs <;> rfl

@[simp] theorem getD_textsUnlessEmpty (d : Dict String) :
    (textsUnlessEmpty d).getD .empty = d := by
  obtain ⟨entries, hentries⟩ := d
  cases entries <;> rfl

end

/-! ### The parts of a container -/

/-- The variable of a template. -/
def KeyValuePair.restore (x : KeyValuePair) : Container.KeyValue :=
  ⟨x.name.getD "", x.value.getD ""⟩

@[simp] theorem KeyValuePair.restore_ofKeyValue (x : Container.KeyValue) :
    (ofKeyValue x).restore = x := rfl

/-- The secret of a template. -/
def Secret.restore (x : Secret) : Container.Secret := ⟨x.name, x.valueFrom⟩

theorem Secret.ofSecret_kept : Kept ofSecret restore := fun x => ⟨⟨x.name, x.valueFrom⟩, rfl, rfl⟩

/-- The port of a template. -/
def PortMapping.restore (x : PortMapping) : Container.PortMapping :=
  ⟨x.containerPort.getD 0, x.hostPort, x.protocol⟩

@[simp] theorem PortMapping.restore_ofPortMapping (x : Container.PortMapping) :
    (ofPortMapping x).restore = x := rfl

/-- Where a log goes in a template. -/
def LogConfiguration.restore (x : LogConfiguration) : Container.LogConfiguration where
  logDriver := x.logDriver
  options := x.options.getD .empty
  secretOptions := (x.secretOptions.getD []).map Secret.restore

theorem LogConfiguration.ofLogConfiguration_kept : Kept ofLogConfiguration restore := by
  intro x
  obtain ⟨secrets, hsecrets, hback⟩ := Secret.ofSecret_kept.all x.secretOptions
  refine ⟨⟨x.logDriver, some x.options, unlessEmpty secrets⟩, ?_, ?_⟩
  · rw [ofLogConfiguration, hsecrets]
    rfl
  · simp only [restore, getD_unlessEmpty, Option.getD_some, hback]

/-- How health is checked in a template. -/
def HealthCheck.restore (x : HealthCheck) : Container.HealthCheck :=
  ⟨x.command, x.interval, x.timeout, x.retries, x.startPeriod⟩

theorem HealthCheck.ofHealthCheck_kept : Kept ofHealthCheck restore :=
  fun x => ⟨⟨x.command, x.interval, x.timeout, x.retries, x.startPeriod⟩, rfl, rfl⟩

/-- The dependency of a template. -/
def ContainerDependency.restore (x : ContainerDependency) : Container.Dependency :=
  ⟨x.containerName, x.condition⟩

theorem ContainerDependency.ofDependency_kept : Kept ofDependency restore :=
  fun x => ⟨⟨x.containerName, x.condition⟩, rfl, rfl⟩

/-- The volume of a template. -/
def MountPoint.restore (x : MountPoint) : Container.MountPoint :=
  ⟨x.sourceVolume, x.containerPath, x.readOnly⟩

@[simp] theorem MountPoint.restore_ofMountPoint (x : Container.MountPoint) :
    (ofMountPoint x).restore = x := rfl

/-- The limit of a template. -/
def Ulimit.restore (x : Ulimit) : Container.Ulimit := ⟨x.name, x.softLimit, x.hardLimit⟩

theorem Ulimit.ofUlimit_kept : Kept ofUlimit restore :=
  fun x => ⟨⟨x.name, x.softLimit, x.hardLimit⟩, rfl, rfl⟩

/-- The log router of a template. -/
def FirelensConfiguration.restore (x : FirelensConfiguration) : Container.FirelensConfiguration :=
  ⟨x.type, x.options.getD .empty⟩

theorem FirelensConfiguration.ofFirelensConfiguration_kept :
    Kept ofFirelensConfiguration restore := by
  intro x
  refine ⟨⟨x.type, textsUnlessEmpty x.options⟩, rfl, ?_⟩
  rw [restore, getD_textsUnlessEmpty]

/-! ### Containers -/

namespace ContainerDefinition

/-- The template that a container was made from, with its share set. -/
def restore (c : ContainerDefinition) : Container.Definition where
  name := c.name.getD ""
  image := c.image.getD ""
  essential := c.essential
  cpu := some c.cpu
  memory := c.memory
  memoryReservation := c.memoryReservation
  portMappings := (c.portMappings.getD []).map PortMapping.restore
  environment := (c.environment.getD []).map KeyValuePair.restore
  secrets := (c.secrets.getD []).map Secret.restore
  command := c.command.getD []
  entryPoint := c.entryPoint.getD []
  workingDirectory := c.workingDirectory
  user := c.user
  readonlyRootFilesystem := c.readonlyRootFilesystem
  healthCheck := c.healthCheck.map HealthCheck.restore
  dependsOn := (c.dependsOn.getD []).map ContainerDependency.restore
  mountPoints := (c.mountPoints.getD []).map MountPoint.restore
  dockerLabels := c.dockerLabels.getD .empty
  ulimits := (c.ulimits.getD []).map Ulimit.restore
  startTimeout := c.startTimeout
  stopTimeout := c.stopTimeout
  logConfiguration := c.logConfiguration.map LogConfiguration.restore
  firelensConfiguration := c.firelensConfiguration.map FirelensConfiguration.restore

/-- A container is turned back into its template, with its share set. -/
theorem ofDefinition_kept (x : Container.Definition) :
    ∃ c, ofDefinition x = .ok c ∧ c.restore = { x with cpu := some (x.cpu.getD 0) } := by
  obtain ⟨secrets, hsecrets, hsecrets'⟩ := Secret.ofSecret_kept.all x.secrets
  obtain ⟨log, hlog, hlog'⟩ :=
    LogConfiguration.ofLogConfiguration_kept.set x.logConfiguration
  obtain ⟨health, hhealth, hhealth'⟩ := HealthCheck.ofHealthCheck_kept.set x.healthCheck
  obtain ⟨depends, hdepends, hdepends'⟩ :=
    ContainerDependency.ofDependency_kept.all x.dependsOn
  obtain ⟨ulimits, hulimits, hulimits'⟩ := Ulimit.ofUlimit_kept.all x.ulimits
  obtain ⟨router, hrouter, hrouter'⟩ :=
    FirelensConfiguration.ofFirelensConfiguration_kept.set x.firelensConfiguration
  rw [ofDefinition, hsecrets, hlog, hhealth, hdepends, hulimits, hrouter]
  refine ⟨_, rfl, ?_⟩
  simp only [restore, Option.getD_some, getD_unlessEmpty, getD_textsUnlessEmpty, hsecrets', hlog',
    hhealth', hdepends', hulimits', hrouter', map_restore PortMapping.restore_ofPortMapping,
    map_restore KeyValuePair.restore_ofKeyValue, map_restore MountPoint.restore_ofMountPoint]

end ContainerDefinition

/-- Every task definition can be sent. -/
theorem registration_ok (d : TaskDefinition) : ∃ message, registration d = .ok message := by
  obtain ⟨cs, hcs, _⟩ :=
    convertAll_related ContainerDefinition.ofDefinition_kept d.containerDefinitions
  rw [registration, hcs]
  exact ⟨_, rfl⟩

/-- **When two containers are registered alike.**  Every container can be registered.  Two are
registered alike exactly if they are alike in every setting but the processor share, and in this one
too if an unset share is taken for 0. -/
theorem registered_alike_iff :
    (∀ x, ∃ c, ContainerDefinition.ofDefinition x = .ok c) ∧
      ∀ x y, ContainerDefinition.ofDefinition x = ContainerDefinition.ofDefinition y ↔
        y = { x with cpu := y.cpu } ∧ x.cpu.getD 0 = y.cpu.getD 0 := by
  constructor
  · intro x
    obtain ⟨c, hc, _⟩ := ContainerDefinition.ofDefinition_kept x
    exact ⟨c, hc⟩
  · intro x y
    constructor
    · intro heq
      obtain ⟨c, hc, hx⟩ := ContainerDefinition.ofDefinition_kept x
      obtain ⟨c', hc', hy⟩ := ContainerDefinition.ofDefinition_kept y
      rw [heq, hc'] at hc
      cases hc
      rw [hx] at hy
      have hrest := congrArg (fun d => { d with cpu := y.cpu }) hy
      have hcpu := Option.some.inj (congrArg Container.Definition.cpu hy)
      exact ⟨hrest.symm, hcpu⟩
    · rintro ⟨hrest, hcpu⟩
      rw [hrest]
      simp only [ContainerDefinition.ofDefinition, hcpu]

/-- A container with a name and an image, and no other setting. -/
def plainContainer : Container.Definition where
  name := "web"
  image := "web:1"
  essential := none
  cpu := none
  memory := none
  memoryReservation := none
  portMappings := []
  environment := []
  secrets := []
  command := []
  entryPoint := []
  workingDirectory := none
  user := none
  readonlyRootFilesystem := none
  healthCheck := none
  dependsOn := []
  mountPoints := []
  dockerLabels := .empty
  ulimits := []
  startTimeout := none
  stopTimeout := none
  logConfiguration := none
  firelensConfiguration := none

/-- Two containers may be registered alike without being the same: one without a share, and the same
one with a share of 0. -/
theorem registered_alike_without_share :
    ¬ ∀ x y, ContainerDefinition.ofDefinition x = ContainerDefinition.ofDefinition y → x = y := by
  intro hinjective
  have hsame := hinjective plainContainer { plainContainer with cpu := some 0 } rfl
  have hcpu : plainContainer.cpu = some 0 := congrArg Container.Definition.cpu hsame
  cases hcpu

end Cutover.Wire
