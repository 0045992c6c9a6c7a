/-
**What comes in front of a rollout.**

A deployment makes a new version of its service known, moves the service to it, and waits for the
tasks and their logs; from there on it follows the rollout.  The deployment that it follows is the
one to which the service was moved: the service is moved once, and the first primary deployment in
the answer counts.

Main definitions:

* `Cutover.Service.launch` — the part of a deployment in front of its rollout;
* `Cutover.Service.Aside` — a run that moves no service.

Main results:

* `Cutover.Service.deploy_eq_launch` — a deployment is what comes in front of its rollout, and the
  rollout;
* `Cutover.Service.launch_moves` — **what is followed is what the service was moved to**.
-/
import Cutover.Proofs.Service.Parts
import Cutover.Proofs.Service.Rollout

set_option autoImplicit false

namespace Cutover.Service

variable {σ : Type} {files : Files} {baseDir : String} {target : Target}
  {given fromEnvironment : Option String} {r : Rollout} {h : Host σ} {w w₁ w' : World σ}

/-- The part of a deployment in front of its rollout. -/
def launch (files : Files) (baseDir : String) (t : Target)
    (given fromEnvironment : Option String) : Run σ Rollout := do
  let tag ← Run.ofExcept (resolveImageTag given fromEnvironment)
  let (config, accountId, containers) ← prepare files baseDir t tag
  let definition ←
    registerTaskDefinition t.application t.environment accountId config containers
  let cluster := clusterName t.application t.environment
  let service := ecsName t.application t.environment config.name
  let deployment ← updateService cluster service definition
  Run.report .info "Updated ECS service"
    [("service", service), ("deployment", deployment), ("image_tag", tag)]
  let tasks ← awaitRunningTasks cluster service deployment config.count
  let group := logGroup t.application t.environment t.service
  let streams ← awaitLogs cluster service group tasks
  return ⟨cluster, service, deployment, group, streams⟩

/-- A deployment is what comes in front of its rollout, and the rollout. -/
theorem deploy_eq_launch (files : Files) (baseDir : String) (t : Target)
    (given fromEnvironment : Option String) :
    (deploy files baseDir t given fromEnvironment : Run σ Unit) =
      launch files baseDir t given fromEnvironment >>= fun r =>
        monitorRollout r.cluster r.service r.deployment r.group r.streams := by
  simp only [deploy, launch, bind_assoc, pure_bind]

/-! ### Runs that move no service -/

/-- Whether an entry is a request to move a service, granted or not. -/
def movesService : Entry → Bool
  | .call (.updateService _ _ _) _ => true
  | _ => false

/-- A run that moves no service. -/
abbrev Aside {α : Type} (m : Run σ α) : Prop :=
  Run.Within (fun x => movesService x = false) (fun _ => True) m

/-- A run that asks nothing but requests that move no service. -/
theorem aside_of_asks {α : Type} {p : Request → Prop} {F : Failure → Prop} {m : Run σ α}
    (hm : Run.Within (Entry.Among p) F m) (hp : ∀ r x, p r → movesService (.call r x) = false) :
    Aside m :=
  (hm.of_among (fun _ => rfl) hp).mono (fun _ hx => hx) fun _ _ => trivial

theorem aside_ofExcept {α : Type} (x : Except Failure α) : Aside (Run.ofExcept x : Run σ α) :=
  (Run.Plain.ofExcept fun _ _ => trivial).within

theorem aside_prepare (files : Files) (baseDir : String) (t : Target) (tag : String) :
    Aside (prepare files baseDir t tag : Run σ _) := by
  refine aside_of_asks (prepare_asks files baseDir t tag) fun r x hr => ?_
  cases r <;> first | rfl | cases hr

theorem aside_registerTaskDefinition (application environment accountId : String)
    (config : ServiceConfig) (containers : List Container.Definition) :
    Aside (registerTaskDefinition application environment accountId config containers :
      Run σ String) :=
  Run.Within.bind (.call fun _ => rfl) fun _ => Run.Within.bind (.reportLine rfl) fun _ => .pure _

theorem aside_awaitRunningTasks (cluster service deployment : String) (expected : Nat) :
    Aside (awaitRunningTasks cluster service deployment expected : Run σ _) := by
  have htasks := awaitRunningTasks_looks (σ := σ) cluster service deployment expected
  refine aside_of_asks htasks fun r x hr => ?_
  obtain ⟨token, rfl⟩ := hr
  rfl

theorem aside_awaitLogs (cluster service group : String) (tasks : List String) :
    Aside (awaitLogs cluster service group tasks : Run σ _) := by
  refine aside_of_asks (awaitLogs_looks cluster service group tasks) fun r x hr => ?_
  rcases hr with rfl | hr
  · rfl
  · cases r <;> first | rfl | cases hr

/-! ### What is followed -/

/-- The entries of a composition that has returned a value: those of its first part, and those of
what follows with the value of the first part. -/
theorem bind_path {α β : Type} {m : Run σ α} {f : α → Run σ β} {y : β} (hm : Aside m)
    (hrun : (m >>= f) h w = (.ok y, w')) :
    ∃ x t w₁, f x h w₁ = (.ok y, w') ∧ Path h w t w₁ ∧ ∀ e ∈ t, movesService e = false := by
  obtain ⟨x, w₁, hx, hf⟩ := Run.bind_eq_ok hrun
  obtain ⟨t, hpath, ht, -⟩ := hm h w
  rw [hx] at hpath
  exact ⟨x, t, w₁, hf, hpath, ht⟩

/-- **What is followed is what the service was moved to.**  In front of its rollout a deployment
moves one service once, and follows the first primary deployment in the answer to that. -/
theorem launch_moves
    (hlaunch : launch files baseDir target given fromEnvironment h w = (.ok r, w')) :
    ∃ before after definition deployments d,
      Path h w (before ++ .call (.updateService r.cluster r.service definition) (.ok deployments) ::
        after) w' ∧
      (∀ x ∈ before ++ after, movesService x = false) ∧
      deployments.find? Deployment.isPrimary = some d ∧ d.id = r.deployment := by
  obtain ⟨tag, t₁, w₁, hrest, hpath₁, ht₁⟩ := bind_path (aside_ofExcept _) hlaunch
  obtain ⟨⟨config, accountId, containers⟩, t₂, w₂, hrest, hpath₂, ht₂⟩ :=
    bind_path (aside_prepare _ _ _ _) hrest
  obtain ⟨definition, t₃, w₃, hrest, hpath₃, ht₃⟩ :=
    bind_path (aside_registerTaskDefinition _ _ _ _ _) hrest
  -- the one request that moves the service
  obtain ⟨deployment, w₅, hupdate, hrest⟩ := Run.bind_eq_ok hrest
  obtain ⟨deployments, w₄, hcall, hprimary⟩ := Run.bind_eq_ok hupdate
  have hmove := Run.path_of_call hcall
  rcases hfind : deployments.find? Deployment.isPrimary with _ | d
  · simp only [hfind] at hprimary
    cases hprimary
  simp only [hfind] at hprimary
  cases hprimary
  obtain ⟨⟨⟩, t₆, w₆, hrest, hpath₆, ht₆⟩ := bind_path (.reportLine rfl) hrest
  obtain ⟨tasks, t₇, w₇, hrest, hpath₇, ht₇⟩ := bind_path (aside_awaitRunningTasks _ _ _ _) hrest
  obtain ⟨streams, t₈, w₈, hrest, hpath₈, ht₈⟩ := bind_path (aside_awaitLogs _ _ _ _) hrest
  cases hrest
  refine ⟨t₁ ++ (t₂ ++ t₃), t₆ ++ (t₇ ++ t₈), definition, deployments, d, ?_, fun x hx => ?_, hfind,
    rfl⟩
  · have hfront := hpath₁.trans (hpath₂.trans hpath₃)
    have hback := hpath₆.trans (hpath₇.trans hpath₈)
    exact hfront.trans (hmove.trans hback)
  · simp only [List.mem_append] at hx
    rcases hx with (hx | hx | hx) | hx | hx | hx
    · exact ht₁ x hx
    · exact ht₂ x hx
    · exact ht₃ x hx
    · exact ht₆ x hx
    · exact ht₇ x hx
    · exact ht₈ x hx

end Cutover.Service
