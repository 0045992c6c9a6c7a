/-
**In which order a deployment asks the cluster.**

Whatever a deployment is answered, its requests to the cluster come in one order.  It registers one
task definition and moves the service to it; it lists the running tasks of the deployment that this
has started, page by page and again and again, until one complete listing is long enough; it asks
about the containers of just these tasks, unless there are none; and from there on it asks how the
service is.  Logs are asked for only behind a listing with tasks.  Nothing of all this happens
before everything is found that a deployment is made from.

Main definitions:

* `Cutover.Service.Plan` — what a deployment is to bring about;
* `Cutover.Service.Stage`, `Cutover.Service.Stage.Step` — how far it has come, and what it may ask
  next;
* `Cutover.Service.Grounded` — everything is found that a deployment is made from.

Main results:

* `Cutover.Service.taskArns_obeys`, `Cutover.Service.awaitRunningTasks_obeys` — a wait for tasks
  ends with one complete listing;
* `Cutover.Service.carryOut_obeys` — everything behind the preparation follows the order;
* `Cutover.Service.deploy_follows_protocol` — **every deployment asks the cluster in this order, and
  only if everything is found**.
-/
import Cutover.Proofs.Run.Protocol
import Cutover.Proofs.Service.Parts

set_option autoImplicit false

namespace Cutover

variable {σ : Type}

/-- Whether an entry is a request of some kind, granted or not. -/
def Entry.asks (p : Request → Bool) : Entry → Bool
  | .call r _ => p r
  | .report _ => false

namespace Service

/-! ### The order of requests -/

/-- What a deployment is to bring about: so many tasks of a definition, run by a service. -/
structure Plan where
  cluster : String
  service : String
  definition : TaskDefinition
  count : Nat

/-- How far a deployment has come, as its requests to the cluster show. -/
inductive Stage
  /-- Nothing is asked so far. -/
  | ready
  /-- The task definition is registered under this name. -/
  | registered (definition : String)
  /-- The service is moved.  Tasks of this deployment are listed: these so far, and the next page is
  the one at this marker. -/
  | listing (deployment : String) (tasks : List String) (token : Option String)
  /-- A complete listing is long enough. -/
  | listed (tasks : List String)
  /-- The containers of these tasks are known. -/
  | following (tasks : List String)
  /-- A request has not brought what is needed, and nothing more is asked. -/
  | over

/-- What may be asked of the cluster and of the logs at each stage, and the stage that the answer
leads to. -/
inductive Stage.Step (plan : Plan) : Stage → Entry → Stage → Prop
  | register (arn : String) :
      Step plan .ready (.call (.registerTaskDefinition plan.definition) (.ok arn)) (.registered arn)
  | unregistered (e : Failure) :
      Step plan .ready (.call (.registerTaskDefinition plan.definition) (.error e)) .over
  /-- The service is moved to what was registered; the first primary deployment counts. -/
  | move {arn : String} {deployments : List Deployment} {d : Deployment} :
      deployments.find? Deployment.isPrimary = some d →
      Step plan (.registered arn)
        (.call (.updateService plan.cluster plan.service arn) (.ok deployments))
        (.listing d.id [] none)
  | lost {arn : String} {deployments : List Deployment} :
      deployments.find? Deployment.isPrimary = none →
      Step plan (.registered arn)
        (.call (.updateService plan.cluster plan.service arn) (.ok deployments)) .over
  | unmoved {arn : String} (e : Failure) :
      Step plan (.registered arn)
        (.call (.updateService plan.cluster plan.service arn) (.error e)) .over
  /-- A page of running tasks of the deployment, with more behind it. -/
  | page {deployment : String} {tasks : List String} {token : Option String}
      (items : List String) (next : String) :
      Step plan (.listing deployment tasks token)
        (.call (.listTasks plan.cluster (.runningForDeployment deployment) token)
          (.ok ⟨items, some next⟩))
        (.listing deployment (tasks ++ items) (some next))
  /-- The last page of a listing that is too short, so the next page is the first of another. -/
  | short {deployment : String} {tasks items : List String} {token : Option String} :
      (tasks ++ items).length < plan.count →
      Step plan (.listing deployment tasks token)
        (.call (.listTasks plan.cluster (.runningForDeployment deployment) token)
          (.ok ⟨items, none⟩))
        (.listing deployment [] none)
  /-- The last page of a listing that is long enough. -/
  | long {deployment : String} {tasks items : List String} {token : Option String} :
      plan.count ≤ (tasks ++ items).length →
      Step plan (.listing deployment tasks token)
        (.call (.listTasks plan.cluster (.runningForDeployment deployment) token)
          (.ok ⟨items, none⟩))
        (.listed (tasks ++ items))
  | unlisted {deployment : String} {tasks : List String} {token : Option String} (e : Failure) :
      Step plan (.listing deployment tasks token)
        (.call (.listTasks plan.cluster (.runningForDeployment deployment) token) (.error e)) .over
  /-- The tasks of the listing are described, if there are any. -/
  | describe {tasks : List String} (found : List Task) : tasks ≠ [] →
      Step plan (.listed tasks) (.call (.describeTasks plan.cluster tasks) (.ok found))
        (.following tasks)
  | undescribed {tasks : List String} (e : Failure) : tasks ≠ [] →
      Step plan (.listed tasks) (.call (.describeTasks plan.cluster tasks) (.error e)) .over
  /-- Without tasks the service is looked at right away. -/
  | watchIdle (x : Except Failure (List Deployment)) :
      Step plan (.listed []) (.call (.describeServices plan.cluster plan.service) x) (.listed [])
  | watch {tasks : List String} (x : Except Failure (List Deployment)) :
      Step plan (.following tasks) (.call (.describeServices plan.cluster plan.service) x)
        (.following tasks)
  /-- The logs of tasks may be asked for. -/
  | logs {tasks : List String} {x : Entry} : x.asks Request.isOfLogs →
      Step plan (.following tasks) x (.following tasks)
  /-- Everything that is asked neither of the cluster nor of the logs. -/
  | aside {stage : Stage} {x : Entry} : x.asks Request.isOfCluster = false →
      x.asks Request.isOfLogs = false → Step plan stage x stage

variable {plan : Plan} {s : Stage} {t : List Entry}

/-- Logs are asked for only while the logs of tasks are followed. -/
theorem logs_following (hwalk : Walk (Stage.Step plan) .ready t s) {x : Entry} (hx : x ∈ t)
    (hlogs : x.asks Request.isOfLogs = true) : ∃ tasks, tasks ≠ [] ∧ s = .following tasks := by
  -- what is followed is never empty, and it is followed to the end
  have hall : (∀ tasks, s = .following tasks → tasks ≠ []) ∧
      (∀ x ∈ t, x.asks Request.isOfLogs = true → ∃ tasks, s = .following tasks) := by
    clear hx hlogs
    induction hwalk with
    | refl => exact ⟨by simp, by simp⟩
    | @step t s₁ s₂ y _ hstep ih =>
        obtain ⟨hsome, hfollowed⟩ := ih
        have hkeep : (∃ tasks, s₁ = .following tasks) → s₂ = s₁ := by
          rintro ⟨tasks, rfl⟩
          cases hstep <;> rfl
        constructor
        · intro tasks htasks
          subst htasks
          cases hstep with
          | describe found hne => exact hne
          | watch x => exact hsome tasks rfl
          | logs hx => exact hsome tasks rfl
          | aside _ _ => exact hsome tasks rfl
        · intro x hx hlogs
          rcases List.mem_append.1 hx with hx | hx
          · have hs₁ := hfollowed x hx hlogs
            rw [hkeep hs₁]
            exact hs₁
          · obtain rfl := List.mem_singleton.1 hx
            cases hstep with
            | logs _ => exact ⟨_, rfl⟩
            | aside _ hnone => rw [hnone] at hlogs; cases hlogs
            | _ => cases hlogs
  obtain ⟨tasks, htasks⟩ := hall.2 x hx hlogs
  exact ⟨tasks, hall.1 tasks htasks, htasks⟩

/-! ### Parts of a deployment -/

/-- Requests of the store, and reports, leave every stage as it is. -/
theorem asks_store_obeys {α : Type} {m : Run σ α} (hm : Run.Asks (·.isOfStore) m) :
    Run.Obeys (Stage.Step plan) s m fun _ s' => s' = s := by
  refine Run.Within.obeys hm fun x hx => ?_
  cases x with
  | report line => exact .aside rfl rfl
  | call r x => cases r <;> first | exact .aside rfl rfl | cases hx

/-- Reports leave every stage as it is. -/
theorem report_obeys (level : Level) (message : String) (details : List (String × String)) :
    Run.Obeys (Stage.Step plan) s (Run.report level message details : Run σ Unit)
      fun _ s' => s' = s :=
  asks_store_obeys (.tell level message details)

/-- A task definition is registered. -/
theorem registerTaskDefinition_obeys {application environment accountId : String}
    {config : ServiceConfig} {containers : List Container.Definition}
    (hplan : plan.definition =
      taskDefinition application environment accountId config containers) :
    Run.Obeys (Stage.Step plan) .ready
      (registerTaskDefinition application environment accountId config containers : Run σ String)
      fun arn s => s = .registered arn := by
  rw [registerTaskDefinition, ← hplan]
  have hcall : Run.Obeys (Stage.Step plan) .ready
      (Run.call (.registerTaskDefinition plan.definition) : Run σ String)
      fun arn s => s = .registered arn :=
    .call (fun arn => ⟨_, .register arn, rfl⟩) fun e => ⟨_, .unregistered e⟩
  refine hcall.bind fun arn s hs => (report_obeys _ _ _).bind fun _ s' hs' => .pure ?_
  rw [hs', hs]

/-- The service is moved, and what is listed from there on are the tasks of the first primary
deployment. -/
theorem updateService_obeys (plan : Plan) (arn : String) :
    Run.Obeys (Stage.Step plan) (.registered arn)
      (updateService plan.cluster plan.service arn : Run σ String)
      fun deployment s => s = .listing deployment [] none := by
  have hcall : Run.Obeys (Stage.Step plan) (.registered arn)
      (Run.call (.updateService plan.cluster plan.service arn) : Run σ (List Deployment))
      fun deployments s => ∀ d, deployments.find? Deployment.isPrimary = some d →
        s = .listing d.id [] none := by
    refine .call (fun deployments => ?_) fun e => ⟨_, .unmoved e⟩
    rcases hfind : List.find? Deployment.isPrimary deployments with _ | d
    · exact ⟨_, .lost hfind, by simp⟩
    · exact ⟨_, .move hfind, by simp⟩
  refine hcall.bind fun deployments s hs => ?_
  rcases hfind : deployments.find? Deployment.isPrimary with _ | d
  · exact .fail _
  · exact .pure (hs d hfind)

/-- What a complete listing leads to: it is long enough, or another one is begun. -/
def Stage.Answered (plan : Plan) (deployment : String) (tasks : List String) (s : Stage) : Prop :=
  if plan.count ≤ tasks.length then s = .listed tasks else s = .listing deployment [] none

/-- What a page leads to: the next page, or the end of the listing. -/
def Stage.Paged (plan : Plan) (deployment : String) (tasks : List String) (page : Page String)
    (s : Stage) : Prop :=
  match page.next with
  | some next => s = .listing deployment (tasks ++ page.items) (some next)
  | none => Stage.Answered plan deployment (tasks ++ page.items) s

theorem page_obeys (plan : Plan) (deployment : String) (tasks : List String)
    (token : Option String) :
    Run.Obeys (Stage.Step plan) (.listing deployment tasks token)
      (Run.call (.listTasks plan.cluster (.runningForDeployment deployment) token) :
        Run σ (Page String))
      (Stage.Paged plan deployment tasks) := by
  refine .call (fun page => ?_) fun e => ⟨_, .unlisted e⟩
  obtain ⟨items, _ | next⟩ := page
  · by_cases hlong : plan.count ≤ (tasks ++ items).length
    · exact ⟨_, .long hlong, by simp only [Stage.Paged, Stage.Answered, hlong, if_true]⟩
    · exact ⟨_, .short (by omega), by simp only [Stage.Paged, Stage.Answered, hlong, if_false]⟩
  · exact ⟨_, .page items next, rfl⟩

/-- The pages of a listing from a marker on, behind those of which `tasks` are known. -/
theorem listFrom_obeys (plan : Plan) (deployment : String) (fuel : Nat) (tasks : List String)
    (token : Option String) :
    Run.Obeys (Stage.Step plan) (.listing deployment tasks token)
      (Run.listFrom (fun token =>
          Run.call (.listTasks plan.cluster (.runningForDeployment deployment) token))
        fuel token : Run σ (List String))
      fun items s => Stage.Answered plan deployment (tasks ++ items) s := by
  induction fuel generalizing tasks token with
  | zero => exact .unfinished
  | succ fuel ih =>
      refine (page_obeys plan deployment tasks token).bind fun page s hs => ?_
      obtain ⟨items, _ | next⟩ := page
      · exact .pure hs
      · obtain rfl : s = .listing deployment (tasks ++ items) (some next) := hs
        refine (ih (tasks ++ items) (some next)).bind fun rest s hs => .pure ?_
        rwa [List.append_assoc] at hs

/-- A listing of the running tasks of a deployment. -/
theorem taskArns_obeys (plan : Plan) (deployment : String) :
    Run.Obeys (Stage.Step plan) (.listing deployment [] none)
      (taskArns plan.cluster (.runningForDeployment deployment) : Run σ (List String))
      (Stage.Answered plan deployment) :=
  fun h w => listFrom_obeys plan deployment h.rounds [] none h w

/-- A wait for tasks ends with one complete listing that is long enough. -/
theorem awaitRunningTasks_obeys (plan : Plan) (deployment : String) :
    Run.Obeys (Stage.Step plan) (.listing deployment [] none)
      (awaitRunningTasks plan.cluster plan.service deployment plan.count : Run σ (List String))
      fun tasks s => s = .listed tasks := by
  have hprobe : Run.Obeys (Stage.Step plan) (.listing deployment [] none)
      (taskArns plan.cluster (.runningForDeployment deployment) >>= fun tasks =>
        pure (if plan.count ≤ tasks.length then .done tasks else .again tasks.length) :
          Run σ (Attempt (List String) Nat))
      fun a s => (∀ tasks, a = .done tasks → s = .listed tasks) ∧
        ∀ next, a = .again next → s = .listing deployment [] none := by
    refine (taskArns_obeys plan deployment).bind fun tasks s hs => .pure ?_
    rw [Stage.Answered] at hs
    by_cases hlong : plan.count ≤ tasks.length
    · simpa [hlong] using hs
    · simpa [hlong] using hs
  refine (report_obeys _ _ _).bind fun _ s hs => ?_
  obtain rfl := hs
  refine (Run.Obeys.poll (fun _ => hprobe) (.withTimeout taskStartTimeout) 0).bind
    fun polled s hs => ?_
  cases polled with
  | done tasks => exact .pure (hs tasks rfl)
  | timedOut found waited => exact .fail _

/-- Tasks are described and their streams waited for, if there are any. -/
theorem awaitLogs_obeys (plan : Plan) (group : String) (tasks : List String) :
    Run.Obeys (Stage.Step plan) (.listed tasks)
      (awaitLogs plan.cluster plan.service group tasks : Run σ (List String))
      fun streams s => (tasks = [] ∧ streams = [] ∧ s = .listed []) ∨ s = .following tasks := by
  rw [awaitLogs]
  by_cases htasks : tasks = []
  · subst htasks
    exact (report_obeys _ _ _).bind fun _ s hs => .pure (.inl ⟨rfl, rfl, hs⟩)
  have hsome : tasks.isEmpty = false := by simpa using htasks
  simp only [hsome, Bool.false_eq_true, if_false]
  have hcall : Run.Obeys (Stage.Step plan) (.listed tasks)
      (Run.call (.describeTasks plan.cluster tasks) : Run σ (List Task))
      fun _ s => s = .following tasks :=
    .call (fun found => ⟨_, .describe found htasks, rfl⟩) fun e => ⟨_, .undescribed e htasks⟩
  have hnames : Run.Obeys (Stage.Step plan) (.listed tasks)
      (containerNames plan.cluster tasks : Run σ (List String)) fun _ s => s = .following tasks :=
    hcall.bind fun found s hs => .pure hs
  have hstreams : ∀ streams, Run.Obeys (Stage.Step plan) (.following tasks)
      (awaitStreams group streams : Run σ Unit) fun _ s => s = .following tasks := by
    intro streams
    refine Run.Within.obeys (awaitStreams_looks group streams) fun x hx => ?_
    cases x with
    | report line => exact .aside rfl rfl
    | call r x => exact .logs hx
  refine hnames.bind fun names s hs => ?_
  obtain rfl := hs
  exact (hstreams _).bind fun _ s hs => .pure (.inr hs)

/-- Without tasks, nothing but the service is looked at. -/
theorem monitorRollout_idle_obeys (plan : Plan) (deployment group : String) :
    Run.Obeys (Stage.Step plan) (.listed [])
      (monitorRollout plan.cluster plan.service deployment group [] : Run σ Unit)
      fun _ _ => True := by
  have hidle := monitorRollout_looks_silent (σ := σ) plan.cluster plan.service deployment group
  refine (Run.Within.obeys hidle fun x hx => ?_).mono fun _ _ _ => trivial
  cases x with
  | report line => exact .aside rfl rfl
  | call r x =>
      obtain rfl : r = .describeServices plan.cluster plan.service := hx
      exact .watchIdle x

/-- With tasks, their logs and the service are looked at. -/
theorem monitorRollout_obeys (plan : Plan) (deployment group : String)
    (streams tasks : List String) :
    Run.Obeys (Stage.Step plan) (.following tasks)
      (monitorRollout plan.cluster plan.service deployment group streams : Run σ Unit)
      fun _ _ => True := by
  have hasks := monitorRollout_looks (σ := σ) plan.cluster plan.service deployment group streams
  refine (Run.Within.obeys hasks fun x hx => ?_).mono fun _ _ _ => trivial
  cases x with
  | report line => exact .aside rfl rfl
  | call r x =>
      rcases hx with (hlogs | houtput) | rfl
      · exact .logs hlogs
      · cases r <;> first | exact .aside rfl rfl | cases houtput
      · exact .watch x

/-! ### Whole deployments -/

/-- What a deployment is to bring about with the configuration, the account and the containers that
are found for it. -/
def planOf (t : Target) (config : ServiceConfig) (accountId : String)
    (containers : List Container.Definition) : Plan where
  cluster := clusterName t.application t.environment
  service := ecsName t.application t.environment config.name
  definition := taskDefinition t.application t.environment accountId config containers
  count := config.count

/-- The part of a deployment behind its preparation. -/
def carryOut (t : Target) (tag : String) (config : ServiceConfig) (accountId : String)
    (containers : List Container.Definition) : Run σ Unit := do
  let definition ←
    registerTaskDefinition t.application t.environment accountId config containers
  let cluster := clusterName t.application t.environment
  let service := ecsName t.application t.environment config.name
  let deployment ← updateService cluster service definition
  Run.report .info "Updated ECS service"
    [("service", service), ("deployment", deployment), ("image_tag", tag)]
  let tasks ← awaitRunningTasks cluster service deployment config.count
  let group := logGroup t.application t.environment t.service
  let streams ← awaitLogs cluster service group tasks
  monitorRollout cluster service deployment group streams

/-- A deployment is its preparation, and what is behind that. -/
theorem deploy_eq_carryOut (files : Files) (baseDir : String) (t : Target)
    (given fromEnvironment : Option String) :
    (deploy files baseDir t given fromEnvironment : Run σ Unit) =
      Run.ofExcept (resolveImageTag given fromEnvironment) >>= fun tag =>
        prepare files baseDir t tag >>= fun found =>
          carryOut t tag found.1 found.2.1 found.2.2 :=
  rfl

/-- Everything behind the preparation follows the order. -/
theorem carryOut_obeys (t : Target) (tag : String) (config : ServiceConfig) (accountId : String)
    (containers : List Container.Definition) :
    Run.Obeys (Stage.Step (planOf t config accountId containers)) .ready
      (carryOut t tag config accountId containers : Run σ Unit) fun _ _ => True := by
  let plan := planOf t config accountId containers
  have hregister := registerTaskDefinition_obeys (σ := σ) (show plan.definition = _ from rfl)
  refine hregister.bind fun arn s hs => ?_
  obtain rfl := hs
  refine (updateService_obeys plan arn).bind fun deployment s hs => ?_
  obtain rfl := hs
  refine (report_obeys _ _ _).bind fun _ s hs => ?_
  obtain rfl := hs
  refine (awaitRunningTasks_obeys plan deployment).bind fun tasks s hs => ?_
  obtain rfl := hs
  refine (awaitLogs_obeys plan _ tasks).bind fun streams s hs => ?_
  rcases hs with ⟨rfl, rfl, rfl⟩ | rfl
  · exact monitorRollout_idle_obeys plan deployment _
  · exact monitorRollout_obeys plan deployment _ streams tasks

/-- Everything is found that a deployment is made from: a tag, the configuration of the service, the
environment in the stored application, and a stored template in which an image has a place for the
tag.  The plan is made of them. -/
inductive Grounded (files : Files) (baseDir : String) (target : Target)
    (given fromEnvironment : Option String) (h : Host σ) (w : World σ) : Plan → Prop
  | intro {tag : String} {config : ServiceConfig} {app : Application}
      {environment : DeployedEnvironment} {body : ByteArray}
      {template : List Container.Definition} {w₁ w₂ : World σ} :
      resolveImageTag given fromEnvironment = .ok tag →
      ServiceConfig.load files baseDir target.environment target.service = .ok config →
      Application.load target.application h w = (.ok app, w₁) →
      app.environments.find? target.environment = some environment →
      Run.call (.getObject (bucket target.application target.environment)
        (objectKey target.application target.environment target.service)) h w₁ = (.ok body, w₂) →
      templateOf body = .ok template →
      (∃ d ∈ template, hasPlaceholder d.image.toList = true) →
      Grounded files baseDir target given fromEnvironment h w
        (planOf target config environment.accountId (template.map (withImageTag tag)))

variable {files : Files} {baseDir : String} {target : Target}
  {given fromEnvironment : Option String} {h : Host σ} {w w' : World σ}

theorem environment_eq_ok {app : Application} {name : String} {e : DeployedEnvironment}
    (he : app.environment name = .ok e) : app.environments.find? name = some e := by
  rw [Application.environment] at he
  rcases hfind : app.environments.find? name with _ | e'
  · rw [hfind] at he
    cases he
  · rw [hfind] at he
    rw [Except.ok.inj he]

theorem containerDefinitions_eq_ok {application environment service : String}
    {template : List Container.Definition}
    (hfound : containerDefinitions application environment service h w = (.ok template, w')) :
    ∃ body, Run.call (.getObject (bucket application environment)
        (objectKey application environment service)) h w = (.ok body, w') ∧
      templateOf body = .ok template := by
  obtain ⟨x, w₁, hattempt, hrest⟩ := Run.bind_eq_ok hfound
  rcases hcall : Run.call (.getObject (bucket application environment)
    (objectKey application environment service)) h w with ⟨body | e | _, w₂⟩
  · rw [Run.attempt_ok hcall] at hattempt
    obtain ⟨hx, rfl⟩ := Prod.mk.inj hattempt
    obtain rfl := Outcome.ok.inj hx
    obtain ⟨htemplate, rfl⟩ := Run.ofExcept_eq_ok hrest
    rcases hparsed : templateOf body with reason | parsed
    · rw [hparsed] at htemplate
      cases htemplate
    · rw [hparsed] at htemplate
      obtain rfl := Except.ok.inj htemplate
      exact ⟨body, rfl, hparsed⟩
  · rw [Run.attempt_failed hcall] at hattempt
    obtain ⟨hx, rfl⟩ := Prod.mk.inj hattempt
    obtain rfl := Outcome.ok.inj hx
    cases hrest
  · rw [Run.attempt, hcall] at hattempt
    cases hattempt

theorem applyImageTag_eq_ok {service tag : String} {template containers : List Container.Definition}
    (happlied : applyImageTag service tag template = .ok containers) :
    (∃ d ∈ template, hasPlaceholder d.image.toList = true) ∧
      containers = template.map (withImageTag tag) := by
  rw [applyImageTag_eq] at happlied
  by_cases hany : template.any (fun d => hasPlaceholder d.image.toList) = true
  · rw [if_pos hany] at happlied
    exact ⟨List.any_eq_true.1 hany, (Except.ok.inj happlied).symm⟩
  · rw [if_neg hany] at happlied
    cases happlied

/-- What a preparation that is not refused has found; it ends with reading the template. -/
theorem prepare_eq_ok {tag accountId : String} {config : ServiceConfig}
    {containers : List Container.Definition}
    (hprepare : prepare files baseDir target tag h w = (.ok (config, accountId, containers), w')) :
    ∃ (app : Application) (environment : DeployedEnvironment) (body : ByteArray)
      (template : List Container.Definition) (w₁ : World σ),
      ServiceConfig.load files baseDir target.environment target.service = .ok config ∧
      Application.load target.application h w = (.ok app, w₁) ∧
      app.environments.find? target.environment = some environment ∧
      Run.call (.getObject (bucket target.application target.environment)
        (objectKey target.application target.environment target.service)) h w₁ = (.ok body, w') ∧
      templateOf body = .ok template ∧
      (∃ d ∈ template, hasPlaceholder d.image.toList = true) ∧
      accountId = environment.accountId ∧ containers = template.map (withImageTag tag) := by
  obtain ⟨config', w₁, hconfigRun, hrest⟩ := Run.bind_eq_ok hprepare
  obtain ⟨hconfig, rfl⟩ := Run.ofExcept_eq_ok hconfigRun
  obtain ⟨app, w₂, happ, hrest⟩ := Run.bind_eq_ok hrest
  obtain ⟨environment, w₃, henvironmentRun, hrest⟩ := Run.bind_eq_ok hrest
  obtain ⟨henvironment, rfl⟩ := Run.ofExcept_eq_ok henvironmentRun
  obtain ⟨template, w₄, htemplate, hrest⟩ := Run.bind_eq_ok hrest
  obtain ⟨body, hobject, hparsed⟩ := containerDefinitions_eq_ok htemplate
  obtain ⟨containers', w₅, happliedRun, hreturn⟩ := Run.bind_eq_ok hrest
  obtain ⟨happlied, rfl⟩ := Run.ofExcept_eq_ok happliedRun
  obtain ⟨hplace, rfl⟩ := applyImageTag_eq_ok happlied
  cases hreturn
  exact ⟨app, environment, body, template, w₂, hconfig, happ, environment_eq_ok henvironment,
    hobject, hparsed, hplace, rfl, rfl⟩

/-- A preparation that is not refused has found everything. -/
theorem prepare_grounded {tag : String} {config : ServiceConfig} {accountId : String}
    {containers : List Container.Definition}
    (htag : resolveImageTag given fromEnvironment = .ok tag)
    (hprepare : prepare files baseDir target tag h w = (.ok (config, accountId, containers), w')) :
    Grounded files baseDir target given fromEnvironment h w
      (planOf target config accountId containers) := by
  obtain ⟨app, environment, body, template, w₁, hconfig, happ, henvironment, hobject, hparsed,
    hplace, rfl, rfl⟩ := prepare_eq_ok hprepare
  exact .intro htag hconfig happ henvironment hobject hparsed hplace

/-- Requests of the store are none of the cluster or of the logs. -/
theorem aside_of_store {t : List Entry} (ht : ∀ x ∈ t, x.Among (·.isOfStore)) :
    ∀ x ∈ t, x.asks Request.isOfCluster = false ∧ x.asks Request.isOfLogs = false := by
  intro x hx
  have hstore := ht x hx
  cases x with
  | report line => exact ⟨rfl, rfl⟩
  | call r x => cases r <;> first | exact ⟨rfl, rfl⟩ | cases hstore

/-- **Every deployment asks the cluster in one order.**  Either it asks neither the cluster nor the
logs for anything, or everything is found that it is made from; its requests then lead from stage
to stage, and logs are asked for only while the tasks of a complete listing are followed, of which
there is at least one. -/
theorem deploy_follows_protocol (files : Files) (baseDir : String) (target : Target)
    (given fromEnvironment : Option String) (h : Host σ) (w : World σ) :
    ∃ t, (deploy files baseDir target given fromEnvironment h w).2.since w = t ∧
      ((∀ x ∈ t, x.asks Request.isOfCluster = false ∧ x.asks Request.isOfLogs = false) ∨
        ∃ plan stage, Grounded files baseDir target given fromEnvironment h w plan ∧
          Walk (Stage.Step plan) .ready t stage ∧
          ∀ x ∈ t, x.asks Request.isOfLogs = true →
            ∃ tasks, tasks ≠ [] ∧ stage = .following tasks) := by
  rw [deploy_eq_carryOut]
  rcases htag : resolveImageTag given fromEnvironment with e | tag
  · have hpath : Path h w [] w := .refl
    exact ⟨[], hpath.since_eq, .inl (by simp)⟩
  obtain ⟨t₁, hpath₁, hstore, -⟩ := prepare_asks files baseDir target tag h w
  rw [show (Run.ofExcept (.ok tag) : Run σ String) = pure tag from rfl, pure_bind]
  rcases hprepare : prepare files baseDir target tag h w with
    ⟨⟨config, accountId, containers⟩ | e | _, w₁⟩ <;> rw [hprepare] at hpath₁
  · rw [Run.bind_ok hprepare]
    have hgrounded := prepare_grounded htag hprepare
    obtain ⟨t₂, stage, hpath₂, hwalk, -⟩ :=
      carryOut_obeys target tag config accountId containers h w₁
    have hready : Walk (Stage.Step (planOf target config accountId containers)) .ready t₁ .ready :=
      .stay fun x hx => .aside (aside_of_store hstore x hx).1 (aside_of_store hstore x hx).2
    have hall := hready.trans hwalk
    exact ⟨t₁ ++ t₂, (hpath₁.trans hpath₂).since_eq,
      .inr ⟨_, stage, hgrounded, hall, fun x hx hlogs => logs_following hall hx hlogs⟩⟩
  · rw [Run.bind_failed hprepare]
    exact ⟨t₁, hpath₁.since_eq, .inl (aside_of_store hstore)⟩
  · rw [Run.bind_unfinished hprepare]
    exact ⟨t₁, hpath₁.since_eq, .inl (aside_of_store hstore)⟩

end Service

end Cutover
