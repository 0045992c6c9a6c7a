/-
**Deployments that are refused.**

A failure of the kind of a precondition tells an operator that nothing was changed.  Everything that
a deployment checks by itself it checks before it registers a task definition, with one exception:
the answer to the request that moves the service has to have a primary deployment.  If it has none,
the deployment fails as if a precondition did not hold, although a task definition is registered and
the service is moved.

Main definitions:

* `Cutover.Entry.alters` — the successful requests that alter a cluster.

Main results:

* `Cutover.Service.follow_unaltering` — behind the move of a service there are no preconditions;
* `Cutover.Service.deploy_precondition` — **a failed precondition is one in front of all changes, or
  the primary deployment is missing**;
* `Cutover.Service.deploy_precondition_altered` — the exception occurs.
-/
import Cutover.Proofs.Service.Decision
import Cutover.Proofs.Service.Parts

set_option autoImplicit false

namespace Cutover

variable {σ : Type}

/-- Whether an entry is a successful request that alters a cluster: a task definition is registered
or a service is moved. -/
def Entry.alters : Entry → Bool
  | .call (.registerTaskDefinition _) (.ok _) => true
  | .call (.updateService _ _ _) (.ok _) => true
  | _ => false

/-- A request that failed has altered nothing. -/
@[simp] theorem Entry.alters_error (r : Request) (e : Failure) :
    (Entry.call r (.error e)).alters = false := by
  cases r <;> rfl

namespace Service

variable {files : Files} {baseDir : String} {target : Target}
  {given fromEnvironment : Option String} {h : Host σ} {w w' : World σ} {e : Failure}

/-! ### Runs that alter nothing -/

/-- Preparing a deployment alters nothing. -/
theorem prepare_unaltering (files : Files) (baseDir : String) (t : Target) (tag : String) :
    Run.Within (fun x => x.alters = false) (fun _ => True)
      (prepare files baseDir t tag : Run σ _) := by
  refine (prepare_asks files baseDir t tag).of_among (fun _ => rfl) fun r x hr => ?_
  cases r <;> first | rfl | cases hr

/-- Behind the move of a service nothing more is changed, and no precondition is checked. -/
theorem follow_looks (cluster service deployment group tag : String) (expected : Nat) :
    Run.Looks (fun r => r.changesCluster = false) (do
      Run.report .info "Updated ECS service"
        [("service", service), ("deployment", deployment), ("image_tag", tag)]
      let tasks ← awaitRunningTasks cluster service deployment expected
      let streams ← awaitLogs cluster service group tasks
      monitorRollout cluster service deployment group streams : Run σ Unit) := by
  refine Run.Within.bind (.tell _ _ _) fun _ => ?_
  refine ((awaitRunningTasks_looks cluster service deployment expected).widen ?_).bind
    fun tasks => ?_
  · rintro r ⟨token, rfl⟩
    rfl
  refine ((awaitLogs_looks cluster service group tasks).widen ?_).bind fun streams => ?_
  · rintro r (rfl | hr)
    · rfl
    · cases r <;> first | rfl | cases hr
  refine (monitorRollout_looks cluster service deployment group streams).widen ?_
  rintro r ((hr | hr) | rfl)
  · cases r <;> first | rfl | cases hr
  · cases r <;> first | rfl | cases hr
  · rfl

/-- A request that changes nothing alters nothing. -/
theorem unaltering_of_changes {r : Request} (hr : r.changesCluster = false)
    (x : Except Failure r.Reply) : (Entry.call r x).alters = false := by
  cases r <;> first | rfl | cases hr

/-- Behind the move of a service nothing is altered, and no precondition is checked. -/
theorem follow_unaltering (cluster service deployment group tag : String) (expected : Nat) :
    Run.Within (fun x => x.alters = false) (fun e => e.kind ≠ .precondition) (do
      Run.report .info "Updated ECS service"
        [("service", service), ("deployment", deployment), ("image_tag", tag)]
      let tasks ← awaitRunningTasks cluster service deployment expected
      let streams ← awaitLogs cluster service group tasks
      monitorRollout cluster service deployment group streams : Run σ Unit) :=
  (follow_looks cluster service deployment group tag expected).of_among (fun _ => rfl)
    fun _ x hr => unaltering_of_changes hr x

/-! ### The changes -/

/-- A task definition is not registered if the request for it fails. -/
theorem registerTaskDefinition_failed {application environment accountId : String}
    {config : ServiceConfig} {containers : List Container.Definition}
    (hrun : registerTaskDefinition application environment accountId config containers h w =
      (.failed e, w')) :
    Path h w [.call (.registerTaskDefinition
      (taskDefinition application environment accountId config containers)) (.error e)] w' := by
  rcases Run.bind_eq_failed hrun with hcall | ⟨arn, w₁, -, hline⟩
  · exact Run.path_of_call_failed hcall
  · cases hline

theorem registerTaskDefinition_ok {application environment accountId arn : String}
    {config : ServiceConfig} {containers : List Container.Definition}
    (hrun : registerTaskDefinition application environment accountId config containers h w =
      (.ok arn, w')) :
    Path h w [.call (.registerTaskDefinition
        (taskDefinition application environment accountId config containers)) (.ok arn),
      .report ⟨.info, "Registered task definition", [("task_definition", arn)]⟩] w' := by
  obtain ⟨arn', w₁, hcall, hline⟩ := Run.bind_eq_ok hrun
  cases hline
  exact (Run.path_of_call hcall).trans (.line h w₁ _)

/-- A service is not moved, or its new deployment is not known. -/
theorem updateService_failed {cluster service arn : String}
    (hrun : updateService cluster service arn h w = (.failed e, w')) :
    Path h w [.call (.updateService cluster service arn) (.error e)] w' ∨
      ∃ deployments, Path h w [.call (.updateService cluster service arn) (.ok deployments)] w' ∧
        deployments.find? Deployment.isPrimary = none ∧
        e = .noPrimaryDeployment service cluster := by
  rcases Run.bind_eq_failed hrun with hcall | ⟨deployments, w₁, hcall, hrun⟩
  · exact .inl (Run.path_of_call_failed hcall)
  · rcases hfind : deployments.find? Deployment.isPrimary with _ | d <;>
      simp only [hfind] at hrun <;> cases hrun
    exact .inr ⟨deployments, Run.path_of_call hcall, hfind, rfl⟩

/-! ### Whole deployments -/

/-- **A failed precondition is one in front of all changes, or the primary deployment is missing.**
If no request fails as a precondition, then a deployment that does so has either altered nothing, or
it has registered one task definition and moved the service to it, and the answer to that has no
primary deployment. -/
theorem deploy_precondition
    (hown : ∀ r s e, (h.answer r s).result = .error e → e.kind ≠ .precondition)
    (hrun : deploy files baseDir target given fromEnvironment h w = (.failed e, w'))
    (hkind : e.kind = .precondition) :
    (∀ x ∈ w'.since w, x.alters = false) ∨
      ∃ definition arn cluster service deployments,
        (w'.since w).filter Entry.alters =
          [.call (.registerTaskDefinition definition) (.ok arn),
            .call (.updateService cluster service arn) (.ok deployments)] ∧
        deployments.find? Deployment.isPrimary = none ∧
        e = .noPrimaryDeployment service cluster := by
  rw [deploy] at hrun
  -- the tag and the preparation, which alter nothing
  have htag : Run.Within (fun x => x.alters = false) (fun _ => True)
      (Run.ofExcept (resolveImageTag given fromEnvironment) : Run σ String) :=
    (Run.Plain.ofExcept fun _ _ => trivial).within
  rcases htag.bind_failed hrun with ⟨t, hpath, ht, -⟩ | ⟨tag, t₁, w₁, hpath₁, ht₁, hrun⟩
  · exact .inl (hpath.since_eq ▸ ht)
  rcases (prepare_unaltering files baseDir target tag).bind_failed hrun with
    ⟨t, hpath, ht, -⟩ | ⟨⟨config, accountId, containers⟩, t₂, w₂, hpath₂, ht₂, hrun⟩
  · refine .inl ((hpath₁.trans hpath).since_eq ▸ fun x hx => ?_)
    exact (List.mem_append.1 hx).elim (ht₁ x) (ht x)
  have hfront := hpath₁.trans hpath₂
  have hquiet : ∀ x ∈ t₁ ++ t₂, x.alters = false := fun x hx =>
    (List.mem_append.1 hx).elim (ht₁ x) (ht₂ x)
  -- the registration
  rcases Run.bind_eq_failed hrun with hregister | ⟨arn, w₃, hregister, hrun⟩
  · refine .inl ((hfront.trans (registerTaskDefinition_failed hregister)).since_eq ▸ fun x hx => ?_)
    rcases List.mem_append.1 hx with hx | hx
    · exact hquiet x hx
    · rw [List.mem_singleton.1 hx]
      exact Entry.alters_error _ _
  have hregistered := hfront.trans (registerTaskDefinition_ok hregister)
  -- the move
  rcases Run.bind_eq_failed hrun with hupdate | ⟨deployment, w₄, hupdate, hrun⟩
  · rcases updateService_failed hupdate with hrefused | ⟨deployments, hmoved, hnone, he⟩
    · obtain ⟨s, hs⟩ := hrefused.answered (List.mem_singleton.2 rfl)
      exact absurd hkind (hown _ s e hs)
    · refine .inr ⟨taskDefinition target.application target.environment accountId config containers,
        arn, _, _, deployments, ?_, hnone, he⟩
      have hnothing : (t₁ ++ t₂).filter Entry.alters = [] :=
        List.filter_eq_nil_iff.2 fun x hx => by simp [hquiet x hx]
      rw [(hregistered.trans hmoved).since_eq, List.filter_append, List.filter_append, hnothing]
      rfl
  · -- what follows checks no precondition
    obtain ⟨t, hpath, -, hfail⟩ := follow_unaltering
      (clusterName target.application target.environment)
      (ecsName target.application target.environment config.name) deployment
      (logGroup target.application target.environment target.service) tag config.count h w₄
    rw [hrun] at hpath hfail
    rcases hfail e rfl with hkind' | ⟨r, hr⟩
    · exact absurd hkind hkind'
    · obtain ⟨s, hs⟩ := hpath.answered hr
      exact absurd hkind (hown r s e hs)

/-- A host that moves the service, but does not know of a primary deployment. -/
def strandedHost : Host Nat where
  rounds := 5
  answer request n := match request with
    | .updateService _ _ _ => ⟨.ok [⟨"old", "ACTIVE", none, none⟩], 1, n⟩
    | r => failingHost.answer r n

/-- What comes of a deployment on that host. -/
def strandedRun : Outcome Unit × World Nat :=
  deploy smallFiles "." ⟨"app", "dev", "web"⟩ (some "v1") none strandedHost ⟨0, 0, #[]⟩

theorem strandedHost_own (r : Request) (s : Nat) (e : Failure)
    (he : (strandedHost.answer r s).result = .error e) : e.kind ≠ .precondition := by
  cases r <;> cases he <;> simp [Failure.kind]

theorem strandedRun_failed : strandedRun =
    (.failed (.noPrimaryDeployment "app-dev-web" "app-dev-cluster"), strandedRun.2) :=
  Outcome.eq_failed (by decide +kernel)

theorem deploy_precondition_stranded :
    (∀ r s e, (strandedHost.answer r s).result = .error e → e.kind ≠ .precondition) ∧
    strandedRun = (.failed (.noPrimaryDeployment "app-dev-web" "app-dev-cluster"), strandedRun.2) ∧
    ((∀ x ∈ strandedRun.2.since ⟨0, 0, #[]⟩, x.alters = false) ∨
      ∃ definition arn cluster service deployments,
        (strandedRun.2.since ⟨0, 0, #[]⟩).filter Entry.alters =
          [.call (.registerTaskDefinition definition) (.ok arn),
            .call (.updateService cluster service arn) (.ok deployments)]) := by
  refine ⟨strandedHost_own, strandedRun_failed, ?_⟩
  rcases deploy_precondition strandedHost_own strandedRun_failed rfl with
    hquiet | ⟨definition, arn, cluster, service, deployments, halters, -, -⟩
  · exact .inl hquiet
  · exact .inr ⟨definition, arn, cluster, service, deployments, halters⟩

/-- A deployment may fail as if a precondition did not hold although it has registered a task
definition and moved the service to it. -/
theorem deploy_precondition_altered : ∃ (h : Host Nat) (w w' : World Nat) (e : Failure),
    (∀ r s e, (h.answer r s).result = .error e → e.kind ≠ .precondition) ∧
    deploy smallFiles "." ⟨"app", "dev", "web"⟩ (some "v1") none h w = (.failed e, w') ∧
    e.kind = .precondition ∧ ((w'.since w).filter Entry.alters).length = 2 :=
  ⟨strandedHost, ⟨0, 0, #[]⟩, strandedRun.2, _, strandedHost_own, strandedRun_failed, rfl,
    by decide +kernel⟩

end Service

end Cutover
