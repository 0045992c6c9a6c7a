/-
**Nothing is changed before everything is planned.**

A rule update looks first and changes afterwards.  Whatever a host answers, the first request that
creates or deletes a rule comes behind a complete preparation: the environment is known, its
listener and the rules on it are fetched, none of them was made by hand, and in a mode that routes
platform traffic every planned rule has its priority.  If anything is in the way of that, the run
ends there.  A rule that was made by hand is such a thing whatever else there is on the listener.

Main definitions:

* `Cutover.Rule.fetch` — the part of a preparation that comes to the rules of the listener.

Main results:

* `Cutover.Rule.prepare_manual` — a rule that was made by hand ends the preparation;
* `Cutover.Rule.update_changes` — behind a preparation, every request creates or deletes a rule;
* `Cutover.Rule.update_plans_first` — **nothing is changed before everything is planned**.
-/
import Cutover.Proofs.Rule.Deletion
import Cutover.Proofs.Rule.FailureKind

set_option autoImplicit false

namespace Cutover.Rule

variable {σ : Type} {config : PlatformConfig} {environment : String} {h : Host σ} {q : Prepared}
  {w w₁ w' : World σ} {t : List Entry} {p : Progress}

/-! ### Rules that were made by hand -/

/-- The part of a preparation that comes to the rules of the listener, with the mode and the
listener. -/
def fetch (config : PlatformConfig) (environment : String) :
    Run σ (DeploymentMode × String × List ListenerRule) := do
  let mode := (← Run.ofExcept (config.environment environment)).mode
  Run.info ("Deployment Mode: " ++ mode.name)
  let listener ← LoadBalancer.httpsListener config.application environment
  Run.info ("ARN: " ++ listener)
  let rules ← LoadBalancer.rulesWithTags listener
  return (mode, listener, rules)

/-- A rule that was made by hand ends the preparation as soon as the rules are fetched, with the
names of all such rules in their order. -/
theorem prepare_manual {mode : DeploymentMode} {listener : String} {rules : List ListenerRule}
    (hfetch : fetch config environment h w = (.ok (mode, listener, rules), w₁))
    (hmanual : ∃ r ∈ rules, r.owner = .manual) :
    prepare config environment h w = (.failed (.manualRulesPresent
      ((rules.filter (·.owner = .manual)).map (·.arn)) copilotPriority), w₁) := by
  obtain ⟨e, w₂, henv, hrest⟩ := Run.bind_eq_ok hfetch
  obtain ⟨⟨⟩, w₃, hmode, hrest⟩ := Run.bind_eq_ok hrest
  obtain ⟨found, w₄, hlistener, hrest⟩ := Run.bind_eq_ok hrest
  obtain ⟨⟨⟩, w₅, harn, hrest⟩ := Run.bind_eq_ok hrest
  obtain ⟨found', w₆, hrules, hreturn⟩ := Run.bind_eq_ok hrest
  cases hreturn
  have hsome : (classify rules).manual.isEmpty = false := by
    obtain ⟨r, hr, howner⟩ := hmanual
    have hmem : r ∈ ownedBy .manual rules := List.mem_filter.2 ⟨hr, by simp [howner]⟩
    exact List.isEmpty_eq_false_iff_exists_mem.2 ⟨r, hmem⟩
  -- the preparation does the same up to here
  refine (Run.bind_ok henv).trans ?_
  refine (Run.bind_ok hmode).trans ?_
  refine (Run.bind_ok hlistener).trans ?_
  refine (Run.bind_ok harn).trans ?_
  refine (Run.bind_ok hrules).trans ?_
  simp only [hsome]
  rfl

/-! ### Behind the preparation -/

/-- Requests that create or delete rules. -/
theorem isMutation_of_request {r : Request} {x : Except Failure r.Reply}
    (hr : (∃ arn, r = .deleteRule arn) ∨ ∃ listener d, r = .createRule listener d) :
    (Entry.call r x).isMutation = true := by
  rcases hr with ⟨arn, rfl⟩ | ⟨listener, d, rfl⟩ <;> rfl

/-- Behind a preparation, every request creates or deletes a rule. -/
theorem update_changes (hq : prepare config environment h w = (.ok q, w₁)) :
    ∃ t, Path h w₁ t (update config environment h w).2 ∧
      ∀ r x, Entry.call r x ∈ t → (Entry.call r x).isMutation = true := by
  obtain ⟨t, p, stop, w₂, hrun, a, -⟩ := q.apply_advance h w₁ (prepare_nodup hq)
  have hmade : ∀ r x, Entry.call r x ∈ t → (Entry.call r x).isMutation = true := by
    intro r x hx
    refine isMutation_of_request ?_
    rcases a.request_cases (mem_requestsIn hx) with ⟨_, -, hr⟩ | ⟨_, -, hr⟩
    · exact .inl ⟨_, hr⟩
    · exact .inr ⟨_, _, hr⟩
  rw [update_settle hq hrun]
  cases stop with
  | none =>
      obtain ⟨w', hlines, -, hpath⟩ := Run.reportAll_path p.changes.report h w₂
      have hsettle : settle q.listener (p, none) h w₂ = (.ok p.changes, w') := Run.bind_ok hlines
      rw [hsettle]
      refine ⟨t ++ p.changes.report.map .report, a.path.trans hpath, fun r x hx => ?_⟩
      exact hmade r x (by simpa using hx)
  | some e =>
      by_cases huntouched : p.isUntouched = true
      · rw [settle_stopped huntouched]
        exact ⟨t, a.path, hmade⟩
      obtain ⟨t', done, w₃, lines, w', hsettle, hreplay, -, hpath, hlines⟩ :=
        settle_tookBack q.listener h w₂ e (by simpa using huntouched)
      rw [hsettle]
      have hback := (Path.line h w₂ (stoppedLine e)).trans (.line h _ rollingBackLine)
      refine ⟨_, a.path.trans (hback.trans (hreplay.path.trans hpath)), fun r x hx => ?_⟩
      simp only [List.mem_append, List.mem_singleton, reduceCtorEq, false_or] at hx
      rcases hx with hx | hx | hx
      · exact hmade r x hx
      · refine isMutation_of_request ?_
        rcases hreplay.request_cases (mem_requestsIn hx) with ⟨_, -, hr⟩ | ⟨_, _, -, -, hr⟩
        · exact .inl ⟨_, hr⟩
        · exact .inr ⟨_, _, hr⟩
      · -- the last lines are reports
        have := mem_requestsIn hx
        simp [hlines] at this

/-! ### Whole runs -/

/-- The entries of a run that comes to its changes: those of its preparation, which change nothing
and of which no request has failed, and behind them requests that create or delete rules. -/
theorem update_since_prepared (hq : prepare config environment h w = (.ok q, w₁)) :
    ∃ t, (update config environment h w).2.since w = w₁.since w ++ t ∧
      (∀ x ∈ w₁.since w, x.isMutation = false) ∧
      (∀ r e, Entry.call r (.error e) ∉ w₁.since w) ∧
      ∀ r x, Entry.call r x ∈ t → (Entry.call r x).isMutation = true := by
  obtain ⟨t₀, hpath, hhalts⟩ := (prepare_seeks config environment).halts h w
  obtain ⟨t₀', hpath', hlooks, -⟩ := prepare_looks config environment h w
  rw [hq] at hpath hpath' hhalts
  obtain rfl : t₀ = t₀' := hpath.since_eq.symm.trans hpath'.since_eq
  obtain ⟨t, hchanges, hmade⟩ := update_changes hq
  rw [hpath.since_eq, (hpath.trans hchanges).since_eq]
  refine ⟨t, rfl, fun x hx => (hlooks x hx).1, fun r e he => ?_, hmade⟩
  have := hhalts r e he
  contradiction

/-- A run that is refused in its preparation ends there. -/
theorem update_refused {e : Failure} (hq : prepare config environment h w = (.failed e, w₁)) :
    update config environment h w = (.failed e, w₁) :=
  Run.bind_failed hq

/-- The entries of a run that is not prepared change nothing, and if one of its requests has failed,
then so has the run. -/
theorem update_since_unprepared (hq : ∀ q, (prepare config environment h w).1 ≠ .ok q) :
    (∀ x ∈ (update config environment h w).2.since w, x.isMutation = false) ∧
      ∀ r e, Entry.call r (.error e) ∈ (update config environment h w).2.since w →
        (update config environment h w).1 = .failed e := by
  obtain ⟨t, hpath, hhalts⟩ := (prepare_seeks config environment).halts h w
  obtain ⟨t', hpath', hlooks, -⟩ := prepare_looks config environment h w
  obtain rfl : t = t' := hpath.since_eq.symm.trans hpath'.since_eq
  rcases hprepare : prepare config environment h w with ⟨q | e | _, w₁⟩
  · rw [hprepare] at hq
    exact absurd rfl (hq q)
  · rw [hprepare] at hpath hhalts
    rw [update_refused hprepare, hpath.since_eq]
    refine ⟨fun x hx => (hlooks x hx).1, fun r e' he => ?_⟩
    cases hhalts r e' he
    rfl
  · rw [hprepare] at hpath hhalts
    have hrun : update config environment h w = (.unfinished, w₁) := Run.bind_unfinished hprepare
    rw [hrun, hpath.since_eq]
    refine ⟨fun x hx => (hlooks x hx).1, fun r e' he => ?_⟩
    cases hhalts r e' he

section Statement

variable {o : Outcome Changes}

/-- A refusal that no request was answered with comes from the preparation. -/
theorem unprepared_of_refusal {e : Failure} (hrun : update config environment h w = (.failed e, w'))
    (he : Refusal config.application environment e) (hown : e ∉ failuresIn (w'.since w)) :
    ∀ q, (prepare config environment h w).1 ≠ .ok q := by
  intro q hq
  obtain ⟨t, c⟩ := update_course config environment h w
  rw [hrun] at c
  rw [c.path.since_eq] at hown
  cases c with
  | refused hq' _ _ _ =>
      rw [hq'] at hq
      cases hq
  | stopped _ _ _ _ _ hstop _ =>
      -- what stops changes is the failure of a request, or a priority in use
      obtain ⟨before, r, e', after, rfl, -, hcause⟩ := hstop
      have hmem : e' ∈ failuresIn (before ++ Entry.call r (.error e') :: after) :=
        mem_failuresIn (List.mem_append_right _ List.mem_cons_self)
      rw [failuresIn_append] at hown
      have hne : e ≠ e' := fun heq => hown (List.mem_append_right _ (heq ▸ hmem))
      unfold causeOf at hcause
      split at hcause
      · split at hcause
        · subst hcause
          cases he
        · exact hne hcause
      · exact hne hcause
  | tookBack _ _ _ _ _ _ _ _ _ _ _ => exact he.kind (kind_failure _ _)

/-- **Nothing is changed before everything is planned.**  A request to create or delete a rule comes
behind a complete preparation, which makes no such request.  A run that is refused in its
preparation ends there, with one of the known reasons or with the failure of a request; a run of
which a request fails that only looks fails with it; and both are without any such request, as is
every run that fails for one of the known reasons unless a request was answered with it.  If one of
the rules that are fetched was made by hand, the run ends there and names all such rules. -/
theorem update_plans_first (hrun : update config environment h w = (o, w')) :
    (∀ x ∈ w'.since w, x.isMutation = true → ∃ q w₁,
      prepare config environment h w = (.ok q, w₁) ∧ w₁.since w <+: w'.since w ∧
        ∀ y ∈ w₁.since w, y.isMutation = false) ∧
    (∀ e w₁, prepare config environment h w = (.failed e, w₁) →
      o = .failed e ∧ w' = w₁ ∧ (∀ x ∈ w'.since w, x.isMutation = false) ∧
        (Refusal config.application environment e ∨
          ∃ r, Entry.call r (.error e) ∈ w'.since w)) ∧
    (∀ r e, Entry.call r (.error e) ∈ w'.since w →
      (Entry.call r (.error e)).isMutation = false →
        o = .failed e ∧ ∀ x ∈ w'.since w, x.isMutation = false) ∧
    (∀ e, o = .failed e → Refusal config.application environment e →
      e ∉ failuresIn (w'.since w) → ∀ x ∈ w'.since w, x.isMutation = false) ∧
    (∀ mode listener rules w₁,
      fetch config environment h w = (.ok (mode, listener, rules), w₁) →
      (∃ r ∈ rules, r.owner = .manual) →
        o = .failed (.manualRulesPresent
          ((rules.filter (·.owner = .manual)).map (·.arn)) copilotPriority) ∧
        w' = w₁ ∧ ∀ x ∈ w'.since w, x.isMutation = false) := by
  have hunprepared : (∀ q, (prepare config environment h w).1 ≠ .ok q) →
      (∀ x ∈ w'.since w, x.isMutation = false) ∧
        ∀ r e, Entry.call r (.error e) ∈ w'.since w → o = .failed e := by
    intro hq
    have hsince := update_since_unprepared hq
    rwa [hrun] at hsince
  have hrefused : ∀ e w₁, prepare config environment h w = (.failed e, w₁) →
      o = .failed e ∧ w' = w₁ ∧ ∀ x ∈ w'.since w, x.isMutation = false := by
    intro e w₁ hq
    obtain ⟨rfl, rfl⟩ := Prod.mk.inj (hrun.symm.trans (update_refused hq))
    exact ⟨rfl, rfl, (hunprepared fun q => by rw [hq]; simp).1⟩
  refine ⟨fun x hx hmade => ?_, fun e w₁ hq => ?_, fun r e he hlook => ?_,
    fun e ho he hown => ?_, fun mode listener rules w₁ hfetch hmanual => ?_⟩
  · by_cases hprepared : ∃ q, (prepare config environment h w).1 = .ok q
    · obtain ⟨q, hvalue⟩ := hprepared
      have hq : prepare config environment h w =
          (.ok q, (prepare config environment h w).2) := by
        rw [← hvalue]
      obtain ⟨t, hsince, hlooks, -, -⟩ := update_since_prepared hq
      rw [hrun] at hsince
      exact ⟨q, _, hq, ⟨t, hsince.symm⟩, hlooks⟩
    · have := (hunprepared fun q hq => hprepared ⟨q, hq⟩).1 x hx
      simp [hmade] at this
  · obtain ⟨ho, rfl, hlooks⟩ := hrefused e w₁ hq
    obtain ⟨t, hpath, -, hfail⟩ := (prepare_seeks config environment).within h w
    rw [hq] at hpath hfail
    rw [hpath.since_eq] at hlooks ⊢
    exact ⟨ho, rfl, hlooks, hfail e rfl⟩
  · by_cases hprepared : ∃ q, (prepare config environment h w).1 = .ok q
    · -- a prepared run has no failed request in front of its changes, and none that looks behind
      obtain ⟨q, hvalue⟩ := hprepared
      have hq : prepare config environment h w =
          (.ok q, (prepare config environment h w).2) := by
        rw [← hvalue]
      obtain ⟨t, hsince, -, hnone, hmade⟩ := update_since_prepared hq
      rw [hrun] at hsince
      rw [hsince] at he
      rcases List.mem_append.1 he with he | he
      · exact absurd he (hnone r e)
      · have := hmade r _ he
        simp [hlook] at this
    · obtain ⟨hlooks, hfails⟩ := hunprepared fun q hq => hprepared ⟨q, hq⟩
      exact ⟨hfails r e he, hlooks⟩
  · subst ho
    exact (hunprepared (unprepared_of_refusal hrun he hown)).1
  · exact hrefused _ w₁ (prepare_manual hfetch hmanual)

end Statement

/-- The small account with a rule that was made by hand instead of the others. -/
def handmadeWorld : World InMemory.Account :=
  ⟨{ InMemory.smallAccount [] with
    rules := .ofList [("https",
      [⟨"page", .number 1, .empty, none, [], [.fixedResponse "503" none none none], .empty⟩,
        ⟨"by-hand", .number 500, .empty, none, [], [.forwardTo "copilot"], .empty⟩])] }, 0, #[]⟩

open InMemory in
/-- A run on an account with a rule that was made by hand is refused, also in a mode that has no
platform rules. -/
theorem update_plans_first_small : ∃ w',
    update (smallConfig .copilot) "dev" (host 5) handmadeWorld =
      (.failed (.manualRulesPresent ["by-hand"] copilotPriority), w') ∧
    w' = (fetch (smallConfig .copilot) "dev" (host 5) handmadeWorld).2 ∧
    ∀ x ∈ w'.since handmadeWorld, x.isMutation = false := by
  have hfetched : ((fetch (smallConfig .copilot) "dev" (host 5) handmadeWorld).1.value?.map
      fun x => (x.2.2.map (·.owner), (x.2.2.filter (·.owner = .manual)).map (·.arn))) =
        some ([.maintenance, .manual], ["by-hand"]) := by
    decide +kernel
  obtain ⟨⟨mode, listener, rules⟩, hvalue, hrules⟩ := Option.map_eq_some_iff.1 hfetched
  obtain ⟨howners, harns⟩ := Prod.mk.inj hrules
  have hmanual : ∃ r ∈ rules, r.owner = .manual :=
    List.mem_map.1 (show Owner.manual ∈ rules.map (·.owner) by rw [howners]; decide)
  obtain ⟨o, w', hrun⟩ : ∃ o w',
      update (smallConfig .copilot) "dev" (host 5) handmadeWorld = (o, w') :=
    ⟨_, _, rfl⟩
  obtain ⟨-, -, -, -, hends⟩ := update_plans_first hrun
  obtain ⟨rfl, hworld, hlooks⟩ := hends mode listener rules _ (Outcome.eq_ok hvalue) hmanual
  rw [harns] at hrun
  exact ⟨w', hrun, hworld, hlooks⟩

end Cutover.Rule
