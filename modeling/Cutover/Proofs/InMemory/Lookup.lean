/-
**What a rule update finds on an account in memory.**

Before it plans anything, a run finds the listener of its application by way of the tags of load
balancers, and the target groups of the account with their tags.  On an account in memory both are
functions of the account, whatever the sizes of pages are and however many requests were made
before.  So is, then, what the run plans.

Main definitions:

* `Cutover.InMemory.Account.listenerOf` — the listener of an application in an environment;
* `Cutover.InMemory.Account.groups` — the target groups with their tags;
* `Cutover.InMemory.Account.Alike` — accounts on which the same is found besides rules.

Main results:

* `Cutover.InMemory.httpsListener_eq`, `Cutover.InMemory.targetGroupsWithTags_eq` — what a run
  finds is what the account has;
* `Cutover.InMemory.prepare_listener`, `Cutover.InMemory.prepare_planned` — **a prepared run is for
  that listener, and its plan is a function of what the account has**.
-/
import Mathlib.Data.List.Find
import Cutover.Proofs.InMemory.Revertible
import Cutover.Proofs.Rule.Ownership

set_option autoImplicit false

namespace Cutover.InMemory

open Rule InMemory.Account

variable {α : Type} {config : PlatformConfig} {application environment : String} {rounds : Nat}
  {q : Prepared} {w w₁ w' : World Account} {a b : Account}

/-! ### What there is to find -/

namespace Account

/-- The load balancer of an application in an environment. -/
def balancerOf (a : Account) (application environment : String) : Option String :=
  a.loadBalancers.find? fun arn =>
    (a.tags.find? arn).any (LoadBalancer.isForApplication application environment)

/-- The listener of an application in an environment that takes encrypted requests. -/
def listenerOf (a : Account) (application environment : String) : Option String :=
  (a.balancerOf application environment).bind fun balancer =>
    (((a.listeners.find? balancer).getD []).find? (fun l => l.protocol == some "HTTPS")).map (·.arn)

/-- The target groups with their tags. -/
def groups (a : Account) : List TargetGroup :=
  LoadBalancer.giveTags (·.arn) (fun g t => { g with tags := t }) a.tags a.targetGroups

/-- The names of load balancers and target groups. -/
def resources (a : Account) : List String := a.loadBalancers ++ a.targetGroups.map (·.arn)

/-- Two accounts on which the same is found besides rules. -/
structure Alike (a b : Account) : Prop where
  loadBalancers : b.loadBalancers = a.loadBalancers
  listeners : b.listeners = a.listeners
  targetGroups : b.targetGroups = a.targetGroups
  tags : ∀ arn ∈ a.resources, b.tags.find? arn = a.tags.find? arn

end Account

namespace Account.Alike

theorem balancerOf (h : Alike a b) :
    b.balancerOf application environment = a.balancerOf application environment := by
  unfold Account.balancerOf
  rw [h.loadBalancers]
  refine List.find?_congr fun arn harn => ?_
  rw [h.tags arn (List.mem_append_left _ harn)]

theorem listenerOf (h : Alike a b) :
    b.listenerOf application environment = a.listenerOf application environment := by
  unfold Account.listenerOf
  rw [h.balancerOf, h.listeners]

theorem groups (h : Alike a b) : b.groups = a.groups := by
  unfold Account.groups
  rw [h.targetGroups]
  refine LoadBalancer.giveTags_congr _ _ fun g hg => h.tags g.arn ?_
  exact List.mem_append_right _ (List.mem_map_of_mem hg)

end Account.Alike

/-! ### Finding it -/

theorem fetches_loadBalancers (a : Account) :
    Fetches rounds a "load_balancers" a.loadBalancers
      (fun m => Run.call (.describeLoadBalancers m)) := by
  intro marker w page w' ha hrun
  refine call_asked ha ?_ hrun
  rintro _ ⟨counts, rfl⟩
  rfl

theorem fetches_listeners (a : Account) (balancer : String) :
    Fetches rounds a "listeners" ((a.listeners.find? balancer).getD [])
      (fun m => Run.call (.describeListeners balancer m)) := by
  intro marker w page w' ha hrun
  refine call_asked ha ?_ hrun
  rintro _ ⟨counts, rfl⟩
  rfl

theorem fetches_targetGroups (a : Account) :
    Fetches rounds a "target_groups" a.targetGroups
      (fun m => Run.call (.describeTargetGroups m)) := by
  intro marker w page w' ha hrun
  refine call_asked ha ?_ hrun
  rintro _ ⟨counts, rfl⟩
  rfl

theorem tagsForResources_eq {arns : List String} {tags : Dict Tags}
    (hrun : LoadBalancer.tagsForResources arns (host rounds) w = (.ok tags, w'))
    (ha : Asked a w.state) :
    (∀ arn ∈ arns, tags.find? arn = a.tags.find? arn) ∧ Asked a w'.state := by
  have hasked := looks_asked ((seeks_tagsForResources (F := fun _ => False) arns).looks
    (by simp)) rounds w
  rw [hrun] at hasked
  refine ⟨fun arn harn => ?_, ha.trans hasked⟩
  rw [tagsForResources_find? hrun harn, ha.same.tags]

theorem forApplication_eq {balancer : String}
    (hrun : LoadBalancer.forApplication application environment (host rounds) w =
      (.ok balancer, w')) (ha : Asked a w.state) :
    a.balancerOf application environment = some balancer ∧ Asked a w'.state := by
  obtain ⟨arns, w₁, hall, hrest⟩ := Run.bind_eq_ok hrun
  obtain ⟨rfl, ha₁⟩ := (fetches_loadBalancers a).all ha hall
  obtain ⟨tags, w₂, htags, hrest⟩ := Run.bind_eq_ok hrest
  obtain ⟨hfind, ha₂⟩ := tagsForResources_eq htags ha₁
  have hmatch : a.loadBalancers.find? (fun arn => (tags.find? arn).any
      (LoadBalancer.isForApplication application environment)) =
      a.balancerOf application environment :=
    List.find?_congr fun arn harn => by rw [hfind arn harn]
  dsimp only at hrest
  rw [hmatch] at hrest
  cases hfound : a.balancerOf application environment with
  | none =>
      rw [hfound] at hrest
      cases hrest
  | some arn =>
      rw [hfound] at hrest
      cases hrest
      exact ⟨rfl, ha₂⟩

/-- The listener that a run finds is that of the account. -/
theorem httpsListener_eq {listener : String}
    (hrun : LoadBalancer.httpsListener application environment (host rounds) w =
      (.ok listener, w')) (ha : Asked a w.state) :
    a.listenerOf application environment = some listener ∧ Asked a w'.state := by
  obtain ⟨balancer, w₁, hbalancer, hrest⟩ := Run.bind_eq_ok hrun
  obtain ⟨hbalancer, ha₁⟩ := forApplication_eq hbalancer ha
  obtain ⟨found, w₂, hall, hrest⟩ := Run.bind_eq_ok hrest
  obtain ⟨rfl, ha₂⟩ := (fetches_listeners a balancer).all ha₁ hall
  cases hfound : ((a.listeners.find? balancer).getD []).find?
      (fun l => l.protocol == some "HTTPS") with
  | none =>
      rw [hfound] at hrest
      cases hrest
  | some l =>
      rw [hfound] at hrest
      cases hrest
      refine ⟨?_, ha₂⟩
      rw [Account.listenerOf, hbalancer, Option.bind_some, hfound, Option.map_some]

/-- The target groups that a run finds are those of the account. -/
theorem targetGroupsWithTags_eq {groups : List TargetGroup}
    (hrun : LoadBalancer.targetGroupsWithTags [] (host rounds) w = (.ok groups, w'))
    (ha : Asked a w.state) :
    groups = a.groups := by
  obtain ⟨found, w₁, hall, hrest⟩ := Run.bind_eq_ok hrun
  obtain ⟨rfl, ha₁⟩ := (fetches_targetGroups a).all ha hall
  obtain ⟨tags, w₂, htags, hreturn⟩ := Run.bind_eq_ok hrest
  obtain ⟨hfind, -⟩ := tagsForResources_eq htags ha₁
  cases hreturn
  exact LoadBalancer.giveTags_congr _ _ fun g hg => hfind g.arn (List.mem_map_of_mem hg)

/-! ### Prepared runs -/

/-- A prepared run is for the listener of its application. -/
theorem prepare_listener (hq : prepare config environment (host rounds) w = (.ok q, w₁)) :
    w.state.listenerOf config.application environment = some q.listener := by
  obtain ⟨e, w₀, w₂, w₃, w₄, -, -, rfl, hlistener, -⟩ := prepare_eq_ok hq
  exact (httpsListener_eq hlistener (.refl w.state)).1

theorem prepare_for (hq : prepare config environment (host rounds) w = (.ok q, w₁))
    {listener : String}
    (hlistener : w.state.listenerOf config.application environment = some listener) :
    q.listener = listener :=
  Option.some.inj ((prepare_listener hq).symm.trans hlistener)

/-- What a prepared run has planned is a function of its mode, of the copilot rules of the
listener and of the target groups. -/
theorem prepare_planned (hq : prepare config environment (host rounds) w = (.ok q, w₁))
    (hord : w.state.Orderly q.listener) :
    planOf q.mode config.application environment (ownedBy .copilot (w.state.listing q.listener))
      w.state.groups = .ok q.planned := by
  obtain ⟨hrules, -, -⟩ := prepare_listing hq hord
  obtain ⟨e, w₀, w₂, w₃, w₄, -, -, rfl, hlistener, rfl, hfetched, -, hplan⟩ := prepare_eq_ok hq
  obtain ⟨-, hfound⟩ := httpsListener_eq hlistener (.refl w.state)
  have hfetch := looks_asked ((seeks_rulesWithTags (F := fun _ => False) q.listener).looks
    (by simp)) rounds (Run.note w₂ (.report ⟨.info, "ARN: " ++ q.listener, []⟩))
  rw [hfetched] at hfetch
  obtain ⟨groups, hplanned, hgroups⟩ := plan_eq_ok hplan
  rw [hrules] at hplanned
  by_cases hmode : q.mode.routesPlatformTraffic = true
  · obtain ⟨w₅, hgroups⟩ := hgroups hmode
    rw [← targetGroupsWithTags_eq hgroups (hfound.trans hfetch)]
    exact hplanned
  · rw [planOf_eq_nil hmode] at hplanned ⊢
    exact hplanned

end Cutover.InMemory
