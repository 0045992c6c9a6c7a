/-
**The tag that is deployed.**

The tag of a deployment is given with it, or else it is that of the environment, and a tag that is
empty is as good as none.  What is to be deployed is the first tag that is there and not empty.  A
deployment never takes another one: all that it registers is the stored template with this tag in
its images.  But it may complain that there is no tag although there is one: if the tag that is
given with it is empty, then that of the environment is not looked at.

Main definitions:

* `Cutover.Service.firstTag` — the first tag that is there and not empty;
* `Cutover.Service.RegistersOnly` — entries that register one task definition at most.

Main results:

* `Cutover.Service.resolveImageTag_eq` — the tag is the first, unless an empty one is given;
* `Cutover.Service.carryOut_within` — behind its preparation a deployment registers what was
  prepared, and does not complain of a tag;
* `Cutover.Service.deploy_tag` — **what is registered has the first tag, and a tag is missing if
  there is none or an empty one is given**;
* `Cutover.Service.deploy_tag_hidden` — an empty tag that is given hides that of the environment.
-/
import Cutover.Proofs.Service.TaggedTemplate

set_option autoImplicit false

namespace Cutover.Service

variable {σ : Type} {files : Files} {baseDir : String} {target : Target}
  {given fromEnvironment : Option String} {h : Host σ} {w w' : World σ} {o : Outcome Unit}

/-! ### The tag -/

/-- The first tag that is there and not empty: the given one, or that of the environment. -/
def firstTag (given fromEnvironment : Option String) : Option String :=
  (given.filter (· ≠ "")).or (fromEnvironment.filter (· ≠ ""))

/-- The tag is the first that is there and not empty, unless an empty one is given. -/
theorem resolveImageTag_eq (given fromEnvironment : Option String) :
    resolveImageTag given fromEnvironment =
      if given = some "" then .error .imageTagMissing
      else (firstTag given fromEnvironment).elim (.error .imageTagMissing) .ok := by
  by_cases hgiven : given = some ""
  · subst hgiven
    rfl
  rw [if_neg hgiven]
  rcases given with _ | tag
  · rcases fromEnvironment with _ | tag
    · rfl
    · by_cases htag : tag = "" <;> simp [resolveImageTag, firstTag, Option.filter, htag]
  · have htag : tag ≠ "" := fun heq => hgiven (congrArg some heq)
    simp [resolveImageTag, firstTag, Option.filter, htag]

/-! ### What is registered -/

/-- An entry that registers no task definition but one. -/
def RegistersOnly (definition : TaskDefinition) (x : Entry) : Prop :=
  ∀ d y, x = .call (.registerTaskDefinition d) y → d = definition

/-- What registers nothing registers no other task definition. -/
theorem registersOnly_of_none (definition : TaskDefinition) {x : Entry}
    (hx : registration? x = none) : RegistersOnly definition x := by
  rintro d y rfl
  cases hx

/-- Behind its preparation a deployment registers what was prepared, and does not complain of a
tag. -/
theorem carryOut_within (t : Target) (tag : String) (config : ServiceConfig) (accountId : String)
    (containers : List Container.Definition) :
    Run.Within
      (RegistersOnly (taskDefinition t.application t.environment accountId config containers))
      (· ≠ .imageTagMissing) (carryOut t tag config accountId containers : Run σ Unit) := by
  refine Run.Within.bind ?_ fun definition =>
    (registered_within t tag definition config).mono (fun _ => registersOnly_of_none _)
      fun _ he => he
  refine Run.Within.bind (.call fun x => ?_) fun arn =>
    Run.Within.bind (.reportLine (registersOnly_of_none _ rfl)) fun _ => .pure arn
  intro d y hcall
  cases hcall
  rfl

/-- Nothing behind the tag complains of one. -/
theorem tagged_within (files : Files) (baseDir : String) (t : Target) (tag : String) :
    Run.Within (fun _ => True) (· ≠ .imageTagMissing)
      (prepare files baseDir t tag >>= fun found =>
        carryOut t tag found.1 found.2.1 found.2.2 : Run σ Unit) := by
  refine ((prepare_within files baseDir t tag).mono (fun _ _ => trivial) ?_).bind fun found =>
    (carryOut_within t tag _ _ _).mono (fun _ _ => trivial) fun _ he => he
  rintro e (hkind | rfl)
  · rintro rfl
    exact hkind rfl
  · simp

/-- What is registered is the stored template with the tag in its images. -/
theorem registered_of_tagged {tag : String} {definition : TaskDefinition}
    {x : Except Failure String}
    (hrun : (prepare files baseDir target tag >>= fun found =>
      carryOut target tag found.1 found.2.1 found.2.2) h w = (o, w'))
    (hx : Entry.call (.registerTaskDefinition definition) x ∈ w'.since w) :
    ∃ body template, Entry.call (.getObject (bucket target.application target.environment)
        (objectKey target.application target.environment target.service)) (.ok body) ∈ w'.since w ∧
      templateOf body = .ok template ∧
      definition.containerDefinitions = template.map (withImageTag tag) := by
  obtain ⟨t₁, hpath₁, hstore, -⟩ := prepare_asks files baseDir target tag h w
  have hquiet : Entry.call (.registerTaskDefinition definition) x ∉ t₁ :=
    fun hmem => nomatch hstore _ hmem
  rcases hprepare : prepare files baseDir target tag h w with
    ⟨⟨config, accountId, containers⟩ | e | _, w₁⟩ <;> rw [hprepare] at hpath₁
  · rw [Run.bind_ok hprepare] at hrun
    obtain ⟨t₂, hpath₂, honly, -⟩ := carryOut_within target tag config accountId containers h w₁
    rw [hrun] at hpath₂
    obtain ⟨app, environment, body, template, w₂, -, happ, -, hobject, hparsed, -, rfl, rfl⟩ :=
      prepare_eq_ok hprepare
    -- the template is the last that is asked for in the preparation
    obtain ⟨t₀, hpath₀, -, -⟩ := load_looks target.application h w
    rw [happ] at hpath₀
    have hasked := hpath₀.trans (Run.path_of_call hobject)
    rw [(hasked.trans hpath₂).since_eq]
    rw [(hpath₁.trans hpath₂).since_eq] at hx
    have hregistered := honly _ ((List.mem_append.1 hx).resolve_left hquiet) definition x rfl
    refine ⟨body, template, by simp, hparsed, ?_⟩
    rw [hregistered]
    rfl
  · rw [Run.bind_failed hprepare] at hrun
    cases hrun
    rw [hpath₁.since_eq] at hx
    exact absurd hx hquiet
  · rw [Run.bind_unfinished hprepare] at hrun
    cases hrun
    rw [hpath₁.since_eq] at hx
    exact absurd hx hquiet

/-- **What is registered has the first tag, and a tag is missing if there is none or an empty one is
given.**  If no request fails for the want of a tag, then a deployment does so exactly if no tag is
there that is not empty, or if the given one is empty, and it has done nothing then.  Whenever it
asks for a task definition to be registered, granted or not, the containers of that are the stored
template with the first tag that is not empty in the place that its images have for it. -/
theorem deploy_tag (hown : ∀ r s, (h.answer r s).result ≠ .error .imageTagMissing)
    (hrun : deploy files baseDir target given fromEnvironment h w = (o, w')) :
    (o = .failed .imageTagMissing ↔
      firstTag given fromEnvironment = none ∨ given = some "") ∧
    (o = .failed .imageTagMissing → w' = w) ∧
    ∀ definition x, Entry.call (.registerTaskDefinition definition) x ∈ w'.since w →
      ∃ tag body template, firstTag given fromEnvironment = some tag ∧
        Entry.call (.getObject (bucket target.application target.environment)
          (objectKey target.application target.environment target.service)) (.ok body) ∈
            w'.since w ∧
        templateOf body = .ok template ∧
        definition.containerDefinitions = template.map (withImageTag tag) := by
  have hnothing : ∀ {x : Entry}, x ∉ w.since w := by
    intro x hx
    rw [(Path.refl : Path h w [] w).since_eq] at hx
    cases hx
  rw [deploy_eq_carryOut, resolveImageTag_eq] at hrun
  by_cases hgiven : given = some ""
  · rw [if_pos hgiven] at hrun
    cases hrun
    exact ⟨by simp [hgiven], fun _ => rfl, fun _ _ hx => absurd hx hnothing⟩
  rw [if_neg hgiven] at hrun
  rcases hfirst : firstTag given fromEnvironment with _ | tag <;> rw [hfirst] at hrun
  · cases hrun
    exact ⟨by simp, fun _ => rfl, fun _ _ hx => absurd hx hnothing⟩
  -- there is a tag, and nothing behind it complains of one
  change (prepare files baseDir target tag >>= _) h w = _ at hrun
  have hfails : o ≠ .failed .imageTagMissing := by
    rintro rfl
    obtain ⟨t, hpath, -, hfail⟩ := tagged_within files baseDir target tag h w
    rw [hrun] at hpath hfail
    rcases hfail _ rfl with hself | ⟨r, hr⟩
    · exact hself rfl
    · obtain ⟨s, hs⟩ := hpath.answered hr
      exact hown r s hs
  refine ⟨by simp [hfails, hgiven], fun ho => absurd ho hfails, fun definition x hx => ?_⟩
  obtain ⟨body, template, hregistered⟩ := registered_of_tagged hrun hx
  exact ⟨tag, body, template, rfl, hregistered⟩

/-- A tag that is given is deployed, whatever that of the environment is. -/
theorem deploy_tag_given : (∀ r s, (failingHost.answer r s).result ≠ .error .imageTagMissing) ∧
    ∃ w', deploy smallFiles "." ⟨"app", "dev", "web"⟩ (some "v1") (some "v2") failingHost
        ⟨0, 0, #[]⟩ = (.failed (.deploymentFailed "app-dev-web" "unknown reason"), w') ∧
      ∀ definition x, Entry.call (.registerTaskDefinition definition) x ∈ w'.since ⟨0, 0, #[]⟩ →
        ∃ template : List Container.Definition,
          definition.containerDefinitions = template.map (withImageTag "v1") := by
  have hown : ∀ r s, (failingHost.answer r s).result ≠ .error .imageTagMissing := by
    intro r s
    cases r <;> exact nofun
  have hfailed : (deploy smallFiles "." ⟨"app", "dev", "web"⟩ (some "v1") (some "v2") failingHost
      ⟨0, 0, #[]⟩).1.failure? = some (.deploymentFailed "app-dev-web" "unknown reason") := by
    decide +kernel
  have hrun := Outcome.eq_failed hfailed
  refine ⟨hown, _, hrun, fun definition x hx => ?_⟩
  obtain ⟨tag, body, template, htag, -, -, hcontainers⟩ :=
    (deploy_tag hown hrun).2.2 definition x hx
  obtain rfl : "v1" = tag := Option.some.inj htag
  exact ⟨template, hcontainers⟩

/-- An empty tag that is given hides that of the environment: the deployment complains that there is
no tag. -/
theorem deploy_tag_hidden : firstTag (some "") (some "v1") = some "v1" ∧
    deploy smallFiles "." ⟨"app", "dev", "web"⟩ (some "") (some "v1") failingHost ⟨0, 0, #[]⟩ =
      (.failed .imageTagMissing, ⟨0, 0, #[]⟩) :=
  ⟨rfl, rfl⟩

end Cutover.Service
