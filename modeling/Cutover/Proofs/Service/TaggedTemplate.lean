/-
**What is registered is the stored template with the tag put in.**

A deployment reads the template of its service, puts the tag into it in place, and has exactly what
this leaves registered, once.  If no image takes the tag, then the deployment fails right there, and
the template stands as it was read.

Main definitions:

* `Cutover.Service.registrationsIn` — the task definitions that are asked to be registered;
* `Cutover.Service.Loaded` — how far a deployment has come when it has read the template.

Main results:

* `Cutover.Service.Loaded.prepare_eq`, `Cutover.Service.loaded_of_prepare` — a preparation succeeds
  exactly if everything is read and an image takes the tag;
* `Cutover.Service.registered_within`, `Cutover.Service.registrations_carryOut` — behind its
  preparation a deployment registers once;
* `Cutover.Service.deploy_registers_tagged` — **what is registered is the stored template with the
  tag put in, and nothing else is changed**.
-/
import Cutover.Proofs.Service.CallProtocol
import Cutover.Proofs.Service.Refusal

set_option autoImplicit false

namespace Cutover.Service

variable {σ : Type} {files : Files} {baseDir : String} {target : Target}
  {given fromEnvironment : Option String} {h : Host σ} {w w' w₁ : World σ} {o : Outcome Unit}
  {tag accountId : String} {config : ServiceConfig} {template : List Container.Definition}

/-! ### Registrations -/

/-- The task definition that an entry asks to be registered, granted or not. -/
def registration? : Entry → Option TaskDefinition
  | .call (.registerTaskDefinition definition) _ => some definition
  | _ => none

/-- The task definitions that are asked to be registered. -/
def registrationsIn (t : List Entry) : List TaskDefinition := t.filterMap registration?

theorem registrationsIn_append (t t' : List Entry) :
    registrationsIn (t ++ t') = registrationsIn t ++ registrationsIn t' :=
  List.filterMap_append

theorem registrationsIn_eq_nil {t : List Entry} (ht : ∀ x ∈ t, registration? x = none) :
    registrationsIn t = [] :=
  List.filterMap_eq_nil_iff.2 ht

/-- What keeps to requests that change nothing registers nothing. -/
theorem registration?_of_changes {r : Request} (hr : r.changesCluster = false)
    (x : Except Failure r.Reply) : registration? (.call r x) = none := by
  cases r <;> first | rfl | cases hr

theorem prepare_registers_nothing (files : Files) (baseDir : String) (t : Target) (tag : String) :
    Run.Within (registration? · = none) (fun _ => True) (prepare files baseDir t tag : Run σ _) := by
  refine (prepare_asks files baseDir t tag).of_among (fun _ => rfl) fun r x hr => ?_
  cases r <;> first | rfl | cases hr

/-- Behind its registration a deployment registers nothing more, and does not complain of a tag. -/
theorem registered_within (t : Target) (tag definition : String) (config : ServiceConfig) :
    Run.Within (registration? · = none) (· ≠ .imageTagMissing) (do
      let cluster := clusterName t.application t.environment
      let service := ecsName t.application t.environment config.name
      let deployment ← updateService cluster service definition
      Run.report .info "Updated ECS service"
        [("service", service), ("deployment", deployment), ("image_tag", tag)]
      let tasks ← awaitRunningTasks cluster service deployment config.count
      let group := logGroup t.application t.environment t.service
      let streams ← awaitLogs cluster service group tasks
      monitorRollout cluster service deployment group streams : Run σ Unit) := by
  refine Run.Within.bind ?_ fun deployment => ?_
  · refine Run.Within.bind (.call fun _ => rfl) fun deployments => ?_
    split
    · exact .pure _
    · exact .fail (by simp)
  · have hfollow := follow_looks (σ := σ) (clusterName t.application t.environment)
      (ecsName t.application t.environment config.name) deployment
      (logGroup t.application t.environment t.service) tag config.count
    refine (hfollow.of_among (fun _ => rfl) fun _ x hr => registration?_of_changes hr x).mono
      (fun _ hx => hx) fun e he hmissing => he ?_
    rw [hmissing]
    rfl

/-- Behind its preparation a deployment registers what was prepared, once. -/
theorem registrations_carryOut (t : Target) (tag : String) (config : ServiceConfig)
    (accountId : String) (containers : List Container.Definition) (h : Host σ) (w : World σ) :
    ∃ behind, Path h w behind (carryOut t tag config accountId containers h w).2 ∧
      registrationsIn behind =
        [taskDefinition t.application t.environment accountId config containers] := by
  let definition := taskDefinition t.application t.environment accountId config containers
  rcases hanswer : (h.answer (.registerTaskDefinition definition) w.state).result with e | arn
  · have hregister : registerTaskDefinition t.application t.environment accountId config containers
        h w = (.failed e, w.after h _) := Run.bind_failed (Run.call_error hanswer)
    rw [carryOut, Run.bind_failed hregister]
    exact ⟨_, registerTaskDefinition_failed hregister, rfl⟩
  · have hregister : registerTaskDefinition t.application t.environment accountId config containers
        h w = (.ok arn, _) := Run.bind_ok (Run.call_ok hanswer)
    obtain ⟨behind, hpath, hnone, -⟩ := registered_within t tag arn config h _
    rw [carryOut, Run.bind_ok hregister]
    refine ⟨_, (registerTaskDefinition_ok hregister).trans hpath, ?_⟩
    rw [registrationsIn_append, registrationsIn_eq_nil hnone]
    rfl

/-! ### What is read in front of the tag -/

/-- A deployment has its tag and has read the configuration of its service, the account of its
environment and the stored template; this is how far it has come then. -/
structure Loaded (files : Files) (baseDir : String) (target : Target)
    (given fromEnvironment : Option String) (h : Host σ) (w : World σ) (tag : String)
    (config : ServiceConfig) (accountId : String) (template : List Container.Definition)
    (w₁ : World σ) : Prop where
  tag : resolveImageTag given fromEnvironment = .ok tag
  config : ServiceConfig.load files baseDir target.environment target.service = .ok config
  stored : ∃ app environment body w₀, Application.load target.application h w = (.ok app, w₀) ∧
    app.environments.find? target.environment = some environment ∧
    environment.accountId = accountId ∧
    Run.call (.getObject (bucket target.application target.environment)
      (objectKey target.application target.environment target.service)) h w₀ = (.ok body, w₁) ∧
    templateOf body = .ok template

/-- A stored object that can be read is the template. -/
theorem containerDefinitions_of_call {application environment service : String} {body : ByteArray}
    (hobject : Run.call (.getObject (bucket application environment)
      (objectKey application environment service)) h w = (.ok body, w₁))
    (hparsed : templateOf body = .ok template) :
    containerDefinitions application environment service h w = (.ok template, w₁) := by
  refine (Run.bind_ok (Run.attempt_ok hobject)).trans ?_
  simp only [hparsed]
  rfl

/-- When everything is read, a preparation ends as putting the tag in does. -/
theorem Loaded.prepare_eq
    (hloaded : Loaded files baseDir target given fromEnvironment h w tag config accountId template
      w₁) :
    prepare files baseDir target tag h w =
      ((Outcome.ofAnswer (applyImageTag target.service tag template)).map (config, accountId, ·),
        w₁) := by
  obtain ⟨app, environment, body, w₀, happ, henvironment, rfl, hobject, hparsed⟩ := hloaded.stored
  have hload : Run.ofExcept (ServiceConfig.load files baseDir target.environment target.service) h w
      = (.ok config, w) := by rw [hloaded.config]; rfl
  have hfound : Run.ofExcept (app.environment target.environment) h w₀ = (.ok environment, w₀) := by
    rw [Application.environment, henvironment]; rfl
  have happlied : Run.ofExcept (applyImageTag target.service tag template) h w₁ =
      (Outcome.ofAnswer (applyImageTag target.service tag template), w₁) := by
    cases applyImageTag target.service tag template <;> rfl
  refine (Run.bind_ok hload).trans ((Run.bind_ok happ).trans ((Run.bind_ok hfound).trans ?_))
  refine (Run.bind_ok (containerDefinitions_of_call hobject hparsed)).trans ?_
  exact Run.bind_pure_eq happlied _

/-- A preparation that succeeds has read everything, and an image has taken the tag. -/
theorem loaded_of_prepare {containers : List Container.Definition}
    (htag : resolveImageTag given fromEnvironment = .ok tag)
    (hprepare : prepare files baseDir target tag h w = (.ok (config, accountId, containers), w₁)) :
    ∃ template, Loaded files baseDir target given fromEnvironment h w tag config accountId template
        w₁ ∧ tagTemplate target.service tag template = (.ok (), containers) := by
  obtain ⟨app, environment, body, template, w₀, hconfig, happ, henvironment, hobject, hparsed,
    hplace, rfl, rfl⟩ := prepare_eq_ok hprepare
  refine ⟨template, ⟨htag, hconfig, app, environment, body, w₀, happ, henvironment, rfl, hobject,
    hparsed⟩, ?_⟩
  rw [tagTemplate_eq, if_pos (List.any_eq_true.2 hplace)]

/-! ### Whole deployments -/

/-- With its tag, a deployment is its preparation and what is behind that. -/
theorem deploy_of_tag (htag : resolveImageTag given fromEnvironment = .ok tag) :
    deploy files baseDir target given fromEnvironment h w =
      (prepare files baseDir target tag >>= fun found =>
        carryOut target tag found.1 found.2.1 found.2.2) h w := by
  rw [deploy_eq_carryOut, htag]
  rfl

/-- A deployment that is prepared registers what was prepared, once. -/
theorem registrations_of_prepare {containers : List Container.Definition}
    (htag : resolveImageTag given fromEnvironment = .ok tag)
    (hprepare : prepare files baseDir target tag h w = (.ok (config, accountId, containers), w₁)) :
    registrationsIn ((deploy files baseDir target given fromEnvironment h w).2.since w) =
      [taskDefinition target.application target.environment accountId config containers] := by
  obtain ⟨front, hfront, hnone, -⟩ := prepare_registers_nothing files baseDir target tag h w
  obtain ⟨behind, hbehind, honce⟩ :=
    registrations_carryOut target tag config accountId containers h w₁
  rw [hprepare] at hfront
  rw [deploy_of_tag htag, Run.bind_ok hprepare, (hfront.trans hbehind).since_eq,
    registrationsIn_append, registrationsIn_eq_nil hnone, honce, List.nil_append]

/-- A deployment that registers something was prepared. -/
theorem prepare_of_registration {definition : TaskDefinition}
    (hregistered : definition ∈
      registrationsIn ((deploy files baseDir target given fromEnvironment h w).2.since w)) :
    ∃ tag config accountId containers w₁, resolveImageTag given fromEnvironment = .ok tag ∧
      prepare files baseDir target tag h w = (.ok (config, accountId, containers), w₁) := by
  rcases htag : resolveImageTag given fromEnvironment with e | tag
  · have hrefused : deploy files baseDir target given fromEnvironment h w = (.failed e, w) := by
      rw [deploy_eq_carryOut, htag]
      rfl
    rw [hrefused, (Path.refl : Path h w [] w).since_eq] at hregistered
    cases hregistered
  · obtain ⟨front, hfront, hnone, -⟩ := prepare_registers_nothing files baseDir target tag h w
    rw [deploy_of_tag htag] at hregistered
    rcases hprepare : prepare files baseDir target tag h w with
      ⟨⟨config, accountId, containers⟩ | e | _, w₁⟩ <;> rw [hprepare] at hfront
    · exact ⟨tag, config, accountId, containers, w₁, rfl, hprepare⟩
    · rw [Run.bind_failed hprepare, hfront.since_eq, registrationsIn_eq_nil hnone] at hregistered
      cases hregistered
    · rw [Run.bind_unfinished hprepare, hfront.since_eq, registrationsIn_eq_nil hnone]
        at hregistered
      cases hregistered

/-- **What is registered is the stored template with the tag put in, and nothing else is changed.**
A template is refused exactly if no image of it has a place for the tag, and then it stands as it
was; otherwise every container is as it was but for the pieces of its image, which are joined by the
tag.  Whatever a deployment asks to be registered has the containers that are left by putting the
first tag into the stored template in place; and when a template is read, then it is either refused
right there, or registered like this, once. -/
theorem deploy_registers_tagged (service text : String) (ds : List Container.Definition)
    (files : Files) (baseDir : String) (target : Target) (given fromEnvironment : Option String)
    (h : Host σ) (w : World σ) :
    (((tagTemplate service text ds).1 = .error (.imageTagNotApplied service text) ↔
        ∀ d ∈ ds, ¬ HasPlace d.image) ∧
      ((tagTemplate service text ds).1 = .ok () ↔ ∃ d ∈ ds, HasPlace d.image) ∧
      ((tagTemplate service text ds).1 ≠ .ok () → (tagTemplate service text ds).2 = ds) ∧
      List.Forall₂ (Tagged text) ds (tagTemplate service text ds).2) ∧
    (∀ definition ∈
        registrationsIn ((deploy files baseDir target given fromEnvironment h w).2.since w),
      ∃ tag config accountId template w₁,
        Loaded files baseDir target given fromEnvironment h w tag config accountId template w₁ ∧
        tagTemplate target.service tag template = (.ok (), definition.containerDefinitions)) ∧
    ∀ tag config accountId template w₁,
      Loaded files baseDir target given fromEnvironment h w tag config accountId template w₁ →
      (∀ e, (tagTemplate target.service tag template).1 = .error e →
        deploy files baseDir target given fromEnvironment h w = (.failed e, w₁)) ∧
      ∀ tagged, tagTemplate target.service tag template = (.ok (), tagged) →
        registrationsIn ((deploy files baseDir target given fromEnvironment h w).2.since w) =
          [taskDefinition target.application target.environment accountId config tagged] := by
  refine ⟨tagTemplate_tagged service text ds, ?_, ?_⟩
  · intro definition hregistered
    obtain ⟨tag, config, accountId, containers, w₁, htag, hprepare⟩ :=
      prepare_of_registration hregistered
    obtain ⟨template, hloaded, htagged⟩ := loaded_of_prepare htag hprepare
    rw [registrations_of_prepare htag hprepare] at hregistered
    obtain rfl := List.mem_singleton.1 hregistered
    exact ⟨tag, config, accountId, template, w₁, hloaded, htagged⟩
  · intro tag config accountId template w₁ hloaded
    have hprepare := hloaded.prepare_eq
    rcases htagged : tagTemplate target.service tag template with ⟨e | ⟨⟩, tagged⟩ <;>
      rw [applyImageTag, htagged] at hprepare
    · refine ⟨fun e' he' => ?_, fun _ hnone => (by cases hnone)⟩
      cases he'
      rw [deploy_of_tag hloaded.tag]
      exact Run.bind_failed hprepare
    · refine ⟨fun _ hnone => (by cases hnone), fun tagged' htagged' => ?_⟩
      cases htagged'
      exact registrations_of_prepare hloaded.tag hprepare

/-- A tag that has the placeholder in it. -/
def nestedTag : String := "v1-" ++ placeholder

/-- A tag that has the placeholder in it is registered as it is. -/
theorem deploy_registers_tagged_nested : ∃ (config : ServiceConfig) (accountId : String)
    (template tagged : List Container.Definition) (w₁ : World Nat),
    Loaded smallFiles "." ⟨"app", "dev", "web"⟩ (some nestedTag) none failingHost ⟨0, 0, #[]⟩
      nestedTag config accountId template w₁ ∧
    tagTemplate "web" nestedTag template = (.ok (), tagged) ∧
    registrationsIn ((deploy smallFiles "." ⟨"app", "dev", "web"⟩ (some nestedTag) none
      failingHost ⟨0, 0, #[]⟩).2.since ⟨0, 0, #[]⟩) =
        [taskDefinition "app" "dev" accountId config tagged] ∧
    tagged.map (·.image) = ["web:v1-" ++ placeholder] := by
  have himages : (prepare smallFiles "." ⟨"app", "dev", "web"⟩ nestedTag failingHost
      ⟨0, 0, #[]⟩).1.value?.map (fun found => found.2.2.map (·.image)) =
        some ["web:v1-" ++ placeholder] := by
    decide +kernel
  obtain ⟨⟨config, accountId, tagged⟩, hvalue, htagged⟩ := Option.map_eq_some_iff.1 himages
  have htag : resolveImageTag (some nestedTag) none = .ok nestedTag := rfl
  obtain ⟨template, hloaded, htemplate⟩ := loaded_of_prepare htag (Outcome.eq_ok hvalue)
  have hregistered := ((deploy_registers_tagged "web" nestedTag template _ _ _ _ _ _ _).2.2
    _ _ _ _ _ hloaded).2 tagged htemplate
  exact ⟨config, accountId, template, tagged, _, hloaded, htemplate, hregistered, htagged⟩

end Cutover.Service
