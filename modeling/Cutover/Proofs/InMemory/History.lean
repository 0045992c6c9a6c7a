/-
**Histories of rule updates on an account in memory.**

Rules are updated again and again, in one mode and then in another, and a run can fail anywhere.
Whatever has happened, the rules of other owners are those of the beginning, and every rule that a
run has created is a platform rule for the runs after it.  So a run plans from the same copilot
rules and the same target groups as if it were the first, and what is left of earlier runs goes.
Hence a run that succeeds leaves what its mode asks for, and nothing else.

Main definitions:

* `Cutover.Rule.definitionsOf` — what a mode asks for, as a function of rules of other owners and
  of target groups;
* `Cutover.Rule.SameButNames` — the same rules under other names;
* `Cutover.InMemory.Runs` — runs for one environment, one after the other.

Main results:

* `Cutover.InMemory.advance_listing` — the changes of a run as a change of the listing;
* `Cutover.InMemory.update_settled` — what a run leaves that succeeds;
* `Cutover.InMemory.Runs.kept` — what all runs keep;
* `Cutover.InMemory.runs_independent` — **histories do not matter**.
-/
import Cutover.Proofs.InMemory.Others
import Cutover.Proofs.InMemory.Restoration
import Cutover.Proofs.Rule.Completion

set_option autoImplicit false

namespace Cutover

/-! ### What a mode asks for -/

section Definitions

open Rule

/-- The definitions of the platform rules that a mode asks for, in their order. -/
def Rule.definitionsOf (mode : DeploymentMode) (application environment : String)
    (others : List ListenerRule) (groups : List TargetGroup) :
    Except Failure (List Definition) :=
  (planOf mode application environment (ownedBy .copilot others) groups).map
    (fun planned => planned.map (·.definition))

/-- The same rules under other names. -/
def Rule.SameButNames (rules rules' : List ListenerRule) : Prop :=
  List.Forall₂ (fun r r' => r' = { r with arn := r'.arn }) rules rules'

/-- Copilot rules are rules of another owner. -/
theorem Rule.ownedBy_copilot_others (rules : List ListenerRule) :
    ownedBy .copilot (others rules) = ownedBy .copilot rules := by
  rw [ownedBy, others, List.filter_filter]
  refine List.filter_congr fun r _ => ?_
  by_cases howner : r.owner = .copilot <;> simp [howner]

/-- Rules of the same definitions are the same but for their names. -/
theorem Rule.sameButNames_of_definitions {definitions : List Definition}
    {rules rules' : List ListenerRule}
    (h : List.Forall₂ (fun (d : Definition) r => r = d.rule r.arn) definitions rules)
    (h' : List.Forall₂ (fun (d : Definition) r => r = d.rule r.arn) definitions rules') :
    SameButNames rules rules' := by
  induction h generalizing rules' with
  | nil =>
      cases h'
      exact .nil
  | cons hr _ ih =>
      cases h' with
      | cons hr' hrest =>
          refine .cons ?_ (ih hrest)
          rw [hr', hr]
          rfl

/-- What the platform rules are made of, in their order. -/
def Rule.platformDefinitions (rules : List ListenerRule) : List (Option Definition) :=
  (ownedBy .platform rules).map (·.definition?)

section Restored

variable {rules rules' deleted restored : List ListenerRule}

@[simp] theorem Rule.platformDefinitions_append :
    platformDefinitions (rules ++ rules') =
      platformDefinitions rules ++ platformDefinitions rules' := by
  simp [platformDefinitions, ownedBy]

theorem Rule.perm_platformDefinitions (h : rules.Perm rules') :
    (platformDefinitions rules).Perm (platformDefinitions rules') :=
  (h.filter _).map _

/-- Copies have the definitions of what they are copies of. -/
theorem Rule.platformDefinitions_copies (h : List.Forall₂ ListenerRule.IsCopy rules rules') :
    platformDefinitions rules' = platformDefinitions rules := by
  induction h with
  | nil => rfl
  | @cons r copy rest rest' hcopy _ ih =>
      have howner : copy.owner = r.owner := by rw [hcopy]; rfl
      have hdefinition : copy.definition? = r.definition? := by rw [hcopy]; rfl
      unfold platformDefinitions ownedBy at ih ⊢
      by_cases hplatform : r.owner = .platform
      · rw [List.filter_cons_of_pos (by simp [howner, hplatform]),
          List.filter_cons_of_pos (by simp [hplatform]), List.map_cons, List.map_cons, ih,
          hdefinition]
      · rw [List.filter_cons_of_neg (by simp [howner, hplatform]),
          List.filter_cons_of_neg (by simp [hplatform]), ih]

/-- A list without some of its rules, which stand behind it instead. -/
theorem Rule.besides_append_perm (hrules : (rules.map (·.arn)).Nodup)
    (hnodup : (deleted.map (·.arn)).Nodup) (hdeleted : ∀ r ∈ deleted, r ∈ rules) :
    (besides (deleted.map (·.arn)) rules ++ deleted).Perm rules := by
  have hmem : ∀ r, r ∈ rules.filter (fun r => r.arn ∈ deleted.map (·.arn)) ↔ r ∈ deleted := by
    intro r
    rw [List.mem_filter, decide_eq_true_eq]
    constructor
    · rintro ⟨hr, harn⟩
      obtain ⟨d, hd, heq⟩ := List.mem_map.1 harn
      rwa [← List.inj_on_of_nodup_map hrules (hdeleted d hd) hr heq]
    · exact fun hr => ⟨hdeleted r hr, List.mem_map_of_mem hr⟩
  have hgone : (rules.filter (fun r => r.arn ∈ deleted.map (·.arn))).Perm deleted :=
    (List.perm_ext_iff_of_nodup (hrules.of_map.filter _) hnodup.of_map).2 hmem
  have hothers : rules.filter (fun r => !decide (r.arn ∉ deleted.map (·.arn))) =
      rules.filter (fun r => r.arn ∈ deleted.map (·.arn)) :=
    List.filter_congr fun r _ => by simp only [decide_not, Bool.not_not]
  have hsplit := List.filter_append_perm (fun r => decide (r.arn ∉ deleted.map (·.arn))) rules
  rw [hothers] at hsplit
  exact (List.Perm.append_left _ hgone.symm).trans hsplit

/-- When deleted rules are back as copies, the platform rules are made of the same. -/
theorem Rule.platformDefinitions_restored (hrules : (rules.map (·.arn)).Nodup)
    (hnodup : (deleted.map (·.arn)).Nodup) (hdeleted : ∀ r ∈ deleted, r ∈ rules)
    (hcopies : List.Forall₂ ListenerRule.IsCopy deleted.reverse restored) :
    (platformDefinitions (besides (deleted.map (·.arn)) rules ++ restored)).Perm
      (platformDefinitions rules) := by
  have hreverse : (besides (deleted.map (·.arn)) rules ++ deleted.reverse).Perm rules :=
    (List.Perm.append_left _ deleted.reverse_perm).trans
      (besides_append_perm hrules hnodup hdeleted)
  rw [platformDefinitions_append, platformDefinitions_copies hcopies,
    ← platformDefinitions_append]
  exact perm_platformDefinitions hreverse

end Restored

end Definitions

namespace InMemory

open Rule InMemory.Account

variable {config : PlatformConfig} {application environment : String} {rounds : Nat}
  {listener : String} {q : Prepared} {w₀ w w₁ w' : World Account} {t : List Entry} {p : Progress}
  {o : Outcome Changes}

/-! ### One run that succeeds -/

/-- The changes of a run as a change of the listing: what is deleted goes, and what is created
stands at the end, under new names. -/
theorem advance_listing (hrules : q.rules = w.state.listing q.listener)
    (hord : w.state.Orderly q.listener) (a : Advance (host rounds) q w t p w') :
    w'.state.listing q.listener =
        besides p.gone (w.state.listing q.listener) ++ p.changes.created ∧
      ∀ r ∈ p.changes.created, w.state.NewName r.arn := by
  induction a with
  | start => exact ⟨by simp [Progress.start, Progress.gone], by simp [Progress.start]⟩
  | report _ _ _ ih => exact ih
  | createRefused _ _ hx ih =>
      obtain ⟨hlisting, hnew⟩ := ih
      have hsame := (create_eq_error hx).same
      exact ⟨(congrFun hsame.listing _).trans hlisting, hnew⟩
  | deleteRefused _ _ hx ih =>
      obtain ⟨hlisting, hnew⟩ := ih
      have hsame := (delete_eq_error hx).same
      exact ⟨(congrFun hsame.listing _).trans hlisting, hnew⟩
  | @created t p w' d r a _ hx ih =>
      obtain ⟨hlisting, hnew⟩ := ih
      have hstanding := advance_standing hrules hord a
      have happend := hstanding.orderly.listing_create hx
      rw [hlisting, List.append_assoc] at happend
      refine ⟨happend, fun x hx' => ?_⟩
      rcases List.mem_append.1 hx' with hx' | hx'
      · exact hnew x hx'
      · obtain ⟨rfl, -⟩ := create_eq_ok hx
        rw [List.mem_singleton.1 hx']
        exact hstanding.later.newName
  | @deleted t p w' r a hr hx ih =>
      obtain ⟨hlisting, hnew⟩ := ih
      obtain ⟨hwithout, -⟩ := delete_eq_ok hx q.listener
      -- the deleted rule was there at the beginning, and no new rule has its name
      have hold : r ∈ w.state.listing q.listener := hrules ▸ (mem_platform.1 hr.1).1
      have hmade : besides [r.arn] p.changes.created = p.changes.created := by
        refine besides_eq_self fun x hx' => ?_
        simpa using (hnew x hx').ne (hord.spent r hold)
      refine ⟨?_, hnew⟩
      rw [hlisting, besides_append, hmade, besides_besides, besides_comm] at hwithout
      rw [Progress.gone_addDeleted]
      exact hwithout

/-- What a run leaves that succeeds: the rules of other owners, and behind them one rule for each
definition that its mode asks for. -/
theorem update_settled {c : Changes}
    (hlistener : w.state.listenerOf config.application environment = some listener)
    (hord : w.state.Orderly listener)
    (hrun : update config environment (host rounds) w = (.ok c, w')) :
    ∃ e definitions made, config.environment environment = .ok e ∧
      definitionsOf e.mode config.application environment (others (w.state.listing listener))
        w.state.groups = .ok definitions ∧
      w'.state.listing listener = others (w.state.listing listener) ++ made ∧
      List.Forall₂ (fun (d : Definition) r => r = d.rule r.arn) definitions made := by
  obtain ⟨t, course⟩ := update_course config environment (host rounds) w
  rw [hrun] at course
  cases course with
  | @changed q t₀ t lines p w₁ w₂ _ hq _ _ happly a hstate _ _ =>
      obtain rfl := prepare_for hq hlistener
      obtain ⟨e, _, _, _, _, henv, hmode, -⟩ := prepare_eq_ok hq
      obtain ⟨hrules, hsame, -⟩ := prepare_listing hq hord
      have hplanned := prepare_planned hq hord
      obtain ⟨hgone, hplatform, hcopilot⟩ := Prepared.apply_completed happly
      have hbefore := congrFun hsame.listing q.listener
      obtain ⟨hlisting, -⟩ := advance_listing (hrules.trans hbefore.symm) (hord.same hsame) a
      rw [hbefore] at hlisting
      -- all platform rules are gone, and nothing else is
      have hothers : besides p.gone (w.state.listing q.listener) =
          others (w.state.listing q.listener) :=
        hord.besides_platform (deleted_mem hq hord a) fun r hr howner =>
          hgone r (mem_platform.2 ⟨hrules ▸ hr, howner⟩)
      -- what is created are the planned rules
      have hmade : List.Forall₂ (fun (rule : Planned) (r : ListenerRule) =>
          r = rule.definition.rule r.arn) q.planned p.changes.created := by
        by_cases hroutes : q.mode.routesPlatformTraffic = true
        · refine (hplatform hroutes).imp fun rule r ⟨s, hs⟩ => ?_
          obtain ⟨hrule, -⟩ := create_eq_ok hs
          rw [hrule]
          rfl
        · rw [planOf_eq_nil hroutes] at hplanned
          rw [← Except.ok.inj hplanned, hcopilot hroutes]
          exact .nil
      refine ⟨e, q.planned.map (·.definition), p.changes.created, henv, ?_, ?_,
        List.forall₂_map_left_iff.2 hmade⟩
      · rw [definitionsOf, ownedBy_copilot_others, ← hmode, hplanned]
        rfl
      · rw [hstate, hlisting, hothers]

/-! ### One run that fails -/

/-- A run that fails and whose taking back no fault hits leaves platform rules that are made of the
same as before. -/
theorem update_failed {e : Failure}
    (hlistener : w.state.listenerOf config.application environment = some listener)
    (hord : w.state.Orderly listener)
    (hnumber : ∀ r ∈ w.state.listing listener, r.owner = .platform → ∃ n, r.priority = .number n)
    (hrun : update config environment (host rounds) w = (.failed e, w'))
    (hspared : ∀ f ∈ w.state.faults,
      f.number ≤ w.state.numberOf f.request + callsIn f.request (forwardPart (w'.since w)) ∨
      w.state.numberOf f.request + callsIn f.request (w'.since w) < f.number) :
    (platformDefinitions (w'.state.listing listener)).Perm
      (platformDefinitions (w.state.listing listener)) := by
  obtain ⟨t, course⟩ := update_course config environment (host rounds) w
  rw [hrun] at course
  rw [course.path.since_eq] at hspared
  cases course with
  | refused _ hpath hquiet _ =>
      have hsame := (path_asked hpath fun x hx => (hquiet x hx).1).same
      rw [hsame.listing]
  | @stopped q _ _ p _ _ _ hq _ _ _ a _ huntouched =>
      obtain rfl := prepare_for hq hlistener
      obtain ⟨hrules, hsame, -⟩ := prepare_listing hq hord
      have hbefore := congrFun hsame.listing q.listener
      have hback := (advance_standing (hrules.trans hbefore.symm) (hord.same hsame) a).revertible
      -- without records, the listing is the one that they lead back to
      rw [List.isEmpty_iff.1 huntouched, hbefore] at hback
      rw [hback.eq_of_nil]
  | @tookBack q t₀ t t' lines p cause done w₁ w₂ w₃ _ hq hpath hquiet _ a _ _ hreplay hstate _ _ =>
      obtain rfl := prepare_for hq hlistener
      rw [forwardPart_append (not_rollingBack_forward hquiet a (quiet_stopped cause))] at hspared
      obtain ⟨-, -, restored, hlisting, hcopies, -⟩ :=
        listing_takenBack hq hord hnumber hpath a hreplay hspared
      have hdeleted := deleted_mem hq hord a
      have hnodup : (q.platform.map (·.arn)).Nodup := by
        refine nodup_platform ?_
        rw [(prepare_listing hq hord).1]
        exact hord.arns
      rw [hstate, hlisting]
      exact platformDefinitions_restored hord.arns (a.deleted_nodup hnodup)
        (fun r hr => (hdeleted r hr).1) (hcopies.imp fun _ _ h => h.1)

/-! ### Histories -/

/-- Runs for one environment of an application, one after the other.  Each has a configuration of
its own, and each can end in any way. -/
inductive Runs (application environment : String) (rounds : Nat) (w₀ : World Account) :
    World Account → Prop
  | start : Runs application environment rounds w₀ w₀
  | run {config : PlatformConfig} {o : Outcome Changes} {w w' : World Account} :
      Runs application environment rounds w₀ w → config.application = application →
      update config environment (host rounds) w = (o, w') →
      Runs application environment rounds w₀ w'

namespace Runs

/-- Runs make a path. -/
theorem path (hruns : Runs application environment rounds w₀ w) :
    ∃ t, Path (host rounds) w₀ t w := by
  induction hruns with
  | start => exact ⟨[], .refl⟩
  | @run config o w w' _ _ hrun ih =>
      obtain ⟨t, hpath⟩ := ih
      obtain ⟨t', course⟩ := update_course config environment (host rounds) w
      rw [hrun] at course
      exact ⟨t ++ t', hpath.trans course.path⟩

/-- Runs behind runs are runs. -/
theorem trans (hruns : Runs application environment rounds w₀ w)
    (hmore : Runs application environment rounds w w') :
    Runs application environment rounds w₀ w' := by
  induction hmore with
  | start => exact hruns
  | run _ happlication hrun ih => exact ih.run happlication hrun

/-- What all runs keep. -/
theorem kept (hruns : Runs application environment rounds w₀ w)
    (hlistener : w₀.state.listenerOf application environment = some listener)
    (htidy : w₀.state.Tidy listener) : Kept listener w₀.state w.state := by
  induction hruns with
  | start => exact .refl htidy
  | @run config o w w' _ happlication hrun ih =>
      have hfound : w.state.listenerOf config.application environment = some listener := by
        rw [happlication, ih.alike.listenerOf]
        exact hlistener
      exact ih.trans (update_kept hfound ih.tidy hrun)

/-- The listener of the application is the same all the time. -/
theorem listenerOf (hruns : Runs application environment rounds w₀ w)
    (hlistener : w₀.state.listenerOf application environment = some listener)
    (htidy : w₀.state.Tidy listener) :
    w.state.listenerOf application environment = some listener := by
  rw [(hruns.kept hlistener htidy).alike.listenerOf]
  exact hlistener

/-- A run behind other runs that succeeds leaves what it would leave as the first. -/
theorem settled {c : Changes} (hruns : Runs application environment rounds w₀ w)
    (hlistener : w₀.state.listenerOf application environment = some listener)
    (htidy : w₀.state.Tidy listener) (happlication : config.application = application)
    (hrun : update config environment (host rounds) w = (.ok c, w')) :
    ∃ e definitions made, config.environment environment = .ok e ∧
      definitionsOf e.mode application environment (others (w₀.state.listing listener))
        w₀.state.groups = .ok definitions ∧
      w'.state.listing listener = others (w₀.state.listing listener) ++ made ∧
      List.Forall₂ (fun (d : Definition) r => r = d.rule r.arn) definitions made := by
  have hkept := hruns.kept hlistener htidy
  have hfound := hruns.listenerOf hlistener htidy
  rw [← happlication] at hfound
  obtain ⟨e, definitions, made, henv, hdefinitions, hlisting, hmade⟩ :=
    update_settled hfound hkept.tidy.orderly hrun
  rw [happlication, hkept.others, hkept.alike.groups] at hdefinitions
  rw [hkept.others] at hlisting
  exact ⟨e, definitions, made, henv, hdefinitions, hlisting, hmade⟩

end Runs

/-- A mode that routes copilot traffic asks for no platform rules. -/
theorem definitionsOf_copilot {mode : DeploymentMode} (hmode : mode.routesCopilotTraffic = true)
    (rules : List ListenerRule) (groups : List TargetGroup) :
    definitionsOf mode application environment rules groups = .ok [] := by
  have hroutes : ¬ mode.routesPlatformTraffic = true := by
    simpa [DeploymentMode.routesCopilotTraffic] using hmode
  rw [definitionsOf, planOf_eq_nil hroutes]
  rfl

/-- **Histories do not matter.**  Let rules be updated any number of times for one environment of an
application, from a tidy account on, in any modes and with any ends, and whether or not changes
could be taken back.

* The rules of other owners are those of the beginning.
* What a run reads is the listing, and every rule of it that one of the runs has created is a
  platform rule.
* A further run that fails leaves platform rules that are made of the same as before it, if they
  had numbers from the beginning and no fault hits a request of its taking back.
* A further run that succeeds leaves the rules of other owners and behind them one rule for each
  definition that its mode asks for, which is a function of the mode, of the rules of other owners
  and of the target groups at the beginning; these are platform rules, and in a mode that routes
  copilot traffic there is none.
* After further runs, another one in the same mode that succeeds leaves the same rules, under other
  names. -/
theorem runs_independent
    (hlistener : w₀.state.listenerOf application environment = some listener)
    (htidy : w₀.state.Tidy listener) (hruns : Runs application environment rounds w₀ w) :
    others (w.state.listing listener) = others (w₀.state.listing listener) ∧
    (∀ rules w₁, LoadBalancer.rulesWithTags listener (host rounds) w = (.ok rules, w₁) →
      rules = w.state.listing listener) ∧
    (∀ r ∈ w.state.listing listener, r.arn ∈ createdIn (w.since w₀) →
      r ∈ (classify (w.state.listing listener)).platform) ∧
    (∀ (config : PlatformConfig) e w', config.application = application →
      (∀ r ∈ w₀.state.listing listener, r.owner = .platform → ∃ n, r.priority = .number n) →
      update config environment (host rounds) w = (.failed e, w') →
      (∀ f ∈ w.state.faults,
        f.number ≤ w.state.numberOf f.request + callsIn f.request (forwardPart (w'.since w)) ∨
        w.state.numberOf f.request + callsIn f.request (w'.since w) < f.number) →
      (platformDefinitions (w'.state.listing listener)).Perm
        (platformDefinitions (w.state.listing listener))) ∧
    ∀ (config : PlatformConfig) c w', config.application = application →
      update config environment (host rounds) w = (.ok c, w') →
      ∃ e definitions made, config.environment environment = .ok e ∧
        definitionsOf e.mode application environment (others (w₀.state.listing listener))
          w₀.state.groups = .ok definitions ∧
        w'.state.listing listener = others (w₀.state.listing listener) ++ made ∧
        List.Forall₂ (fun (d : Definition) r => r = d.rule r.arn) definitions made ∧
        (∀ r ∈ made, r.owner = .platform) ∧
        (e.mode.routesCopilotTraffic = true → made = []) ∧
        ∀ (config' : PlatformConfig) e' c' w₂ w₃, Runs application environment rounds w' w₂ →
          config'.application = application → config'.environment environment = .ok e' →
          e'.mode = e.mode → update config' environment (host rounds) w₂ = (.ok c', w₃) →
          ∃ made', w₃.state.listing listener = others (w₀.state.listing listener) ++ made' ∧
            SameButNames made made' := by
  have hkept := hruns.kept hlistener htidy
  refine ⟨hkept.others, fun rules w₁ hread => ?_, fun r hr hcreated => ?_,
    fun config e w' happlication hnumber hrun hspared => ?_,
    fun config c w' happlication hrun => ?_⟩
  · exact rulesWithTags_eq hread hkept.tidy.orderly.arns
  · obtain ⟨t, hpath⟩ := hruns.path
    rw [hpath.since_eq] at hcreated
    have howner := hkept.owner htidy.orderly hr (path_createdIn hpath _ hcreated)
    exact List.mem_filter.2 ⟨hr, by simp [howner]⟩
  · have hfound := hruns.listenerOf hlistener htidy
    rw [← happlication] at hfound
    exact update_failed hfound hkept.tidy.orderly (hkept.numbered hnumber) hrun hspared
  · obtain ⟨e, definitions, made, henv, hdefinitions, hlisting, hmade⟩ :=
      hruns.settled hlistener htidy happlication hrun
    refine ⟨e, definitions, made, henv, hdefinitions, hlisting, hmade, ?_, fun hmode => ?_, ?_⟩
    · -- the rules of other owners are as they were, so none of them stands behind
      have hothers := ((hruns.run happlication hrun).kept hlistener htidy).others
      rw [hlisting, others_append, others_others] at hothers
      exact others_eq_nil_iff.1 (List.append_right_eq_self.1 hothers)
    · rw [definitionsOf_copilot hmode] at hdefinitions
      cases hdefinitions
      cases hmade
      rfl
    · intro config' e' c' w₂ w₃ hmore happlication' henv' hmode hrun'
      obtain ⟨e'', definitions', made', henv'', hdefinitions', hlisting', hmade'⟩ :=
        ((hruns.run happlication hrun).trans hmore).settled hlistener htidy happlication' hrun'
      -- the second run asks for the same definitions
      obtain rfl := Except.ok.inj (henv'.symm.trans henv'')
      rw [hmode] at hdefinitions'
      obtain rfl := Except.ok.inj (hdefinitions.symm.trans hdefinitions')
      exact ⟨made', hlisting', sameButNames_of_definitions hmade hmade'⟩

theorem smallAccount_tidy (faults : List Fault) : (smallAccount faults).Tidy "https" := by
  refine ⟨smallAccount_orderly faults, fun arn harn => spent_of_head rfl ?_, ?_⟩
  · have hnames : ∀ arn ∈ (smallAccount []).resources, arn.toList.head? ≠ some 'r' := by
      decide +kernel
    exact hnames arn harn
  · rw [smallAccount_listing]
    show ∀ arn ∈ (smallAccount []).resources, ∀ r ∈ (smallAccount []).listing "https", r.arn ≠ arn
    decide +kernel

/-- On the small account, a run fails and is taken back, the same run then succeeds, and a run that
routes copilot traffic leaves the rules of other owners. -/
theorem runs_independent_small : ∃ e c₂ c₃ w₁ w₂ w₃,
    update (smallConfig .platform) "dev" (host 5) (smallWorld [secondDeletion]) = (.failed e, w₁) ∧
    update (smallConfig .platform) "dev" (host 5) w₁ = (.ok c₂, w₂) ∧
    update (smallConfig .copilot) "dev" (host 5) w₂ = (.ok c₃, w₃) ∧
    (platformDefinitions (w₁.state.listing "https")).Perm
      (platformDefinitions ((smallAccount []).listing "https")) ∧
    (∃ made, w₂.state.listing "https" = others ((smallAccount []).listing "https") ++ made) ∧
    w₃.state.listing "https" = others ((smallAccount []).listing "https") := by
  let w₀ := smallWorld [secondDeletion]
  let w₁ := (update (smallConfig .platform) "dev" (host 5) w₀).2
  let w₂ := (update (smallConfig .platform) "dev" (host 5) w₁).2
  let w₃ := (update (smallConfig .copilot) "dev" (host 5) w₂).2
  have hfailed : (update (smallConfig .platform) "dev" (host 5) w₀).1.failure?.isSome = true := by
    decide +kernel
  have hok₂ : (update (smallConfig .platform) "dev" (host 5) w₁).1.value?.isSome = true := by
    decide +kernel
  have hok₃ : (update (smallConfig .copilot) "dev" (host 5) w₂).1.value?.isSome = true := by
    decide +kernel
  have hcalls : callsIn "delete_rule" (forwardPart (w₁.since w₀)) = 2 := by
    decide +kernel
  have hlistener : w₀.state.listenerOf "app" "dev" = some "https" := by
    decide +kernel
  obtain ⟨e, he⟩ := Option.isSome_iff_exists.1 hfailed
  obtain ⟨c₂, hc₂⟩ := Option.isSome_iff_exists.1 hok₂
  obtain ⟨c₃, hc₃⟩ := Option.isSome_iff_exists.1 hok₃
  have hrun₁ := Outcome.eq_failed he
  have hrun₂ := Outcome.eq_ok hc₂
  have hrun₃ := Outcome.eq_ok hc₃
  have hruns₁ : Runs "app" "dev" 5 w₀ w₁ := Runs.start.run rfl hrun₁
  have hruns₂ : Runs "app" "dev" 5 w₀ w₂ := hruns₁.run rfl hrun₂
  -- the fault hits a request of the first run, and none of its taking back
  have hspared : ∀ f ∈ w₀.state.faults,
      f.number ≤ w₀.state.numberOf f.request + callsIn f.request (forwardPart (w₁.since w₀)) ∨
      w₀.state.numberOf f.request + callsIn f.request (w₁.since w₀) < f.number := by
    intro f hf
    rw [List.mem_singleton.1 hf, show secondDeletion.request = "delete_rule" from rfl, hcalls]
    exact .inl (by decide)
  have htidy := smallAccount_tidy [secondDeletion]
  have hnumber : ∀ r ∈ w₀.state.listing "https", r.owner = .platform →
      ∃ n, r.priority = .number n := fun r hr _ => smallAccount_numbered _ r hr
  obtain ⟨-, -, -, hback, -⟩ := runs_independent hlistener htidy
    (.start : Runs "app" "dev" 5 w₀ w₀)
  obtain ⟨-, -, -, -, hafter₁⟩ := runs_independent hlistener htidy hruns₁
  obtain ⟨-, -, -, -, hafter₂⟩ := runs_independent hlistener htidy hruns₂
  obtain ⟨e₂, definitions, made, -, -, hlisting₂, -⟩ := hafter₁ _ c₂ w₂ rfl hrun₂
  obtain ⟨e₃, definitions₃, made₃, henv₃, -, hlisting₃, -, -, hnone, -⟩ := hafter₂ _ c₃ w₃ rfl hrun₃
  obtain rfl := Except.ok.inj henv₃
  rw [hnone rfl, List.append_nil] at hlisting₃
  exact ⟨e, c₂, c₃, w₁, w₂, w₃, hrun₁, hrun₂, hrun₃, hback _ e w₁ rfl hnumber hrun₁ hspared,
    ⟨made, hlisting₂⟩, hlisting₃⟩

end InMemory

end Cutover
