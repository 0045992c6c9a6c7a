/-
**Which rules a rule update deletes.**

Deletions are asked for in four places: for the holder of a priority that is in use, for platform
rules without a copilot rule, for all platform rules, and when changes are taken back.  Whatever a
host answers, a rule of another owner is never among them, and no rule is deleted twice.

Main results:

* `Cutover.Rule.Advance.request_cases`, `Cutover.Rule.Replay.request_cases` — what changes and what
  the taking back ask for;
* `Cutover.Rule.Advance.deleted_nodup` — no rule is deleted twice;
* `Cutover.Rule.update_deletes` — **only rules of this automation are deleted, each once**.
-/
import Cutover.Proofs.InMemory.Listing
import Cutover.Proofs.Rule.Course

set_option autoImplicit false

namespace Cutover.Rule

variable {σ : Type}

/-! ### Changes -/

namespace Advance

variable {h : Host σ} {q : Prepared} {w w' : World σ} {t : List Entry} {p : Progress}

/-- Every request of the changes deletes a platform rule or creates a rule that may be created. -/
theorem request_cases (a : Advance h q w t p w') {x : Request} (hx : x ∈ requestsIn t) :
    (∃ r ∈ q.platform, x = .deleteRule r.arn) ∨
      ∃ d, q.MayCreate d ∧ x = .createRule q.listener d := by
  induction a with
  | start => cases hx
  | report line _ _ ih => exact ih (by simpa using hx)
  | createRefused _ hd _ ih | created _ hd _ ih =>
      rw [requestsIn_append, List.mem_append] at hx
      rcases hx with hx | hx
      · exact ih hx
      · exact .inr ⟨_, hd, by simpa using hx⟩
  | deleteRefused _ hr _ ih | deleted _ hr _ ih =>
      rw [requestsIn_append, List.mem_append] at hx
      rcases hx with hx | hx
      · exact ih hx
      · exact .inl ⟨_, hr.1, by simpa using hx⟩

/-- No rule is deleted twice when the names of the platform rules tell them apart. -/
theorem deleted_nodup (a : Advance h q w t p w') (hnodup : (q.platform.map (·.arn)).Nodup) :
    (p.changes.deleted.map (·.arn)).Nodup := by
  induction a with
  | start => exact .nil
  | report _ _ _ ih | createRefused _ _ _ ih | deleteRefused _ _ _ ih | created _ _ _ ih => exact ih
  | deleted _ hr _ ih =>
      have hnew := hr.2 hnodup
      simp only [Progress.addDeleted, List.map_append, List.map_cons, List.map_nil]
      refine List.nodup_append.2 ⟨ih, by simp, fun arn harn arn' harn' heq => ?_⟩
      obtain ⟨d, hd, rfl⟩ := List.mem_map.1 harn
      exact hnew d hd (heq.trans (List.mem_singleton.1 harn'))

end Advance

/-! ### Taking back -/

/-- Every request of the taking back is for a change that was made. -/
theorem Replay.request_cases {h : Host σ} {listener : String} {done done' : Restored}
    {w w' : World σ} {undos : List Undo} {t : List Entry}
    (b : Replay h listener done w undos t done' w') {x : Request} (hx : x ∈ requestsIn t) :
    (∃ arn, .delete arn ∈ undos ∧ x = .deleteRule arn) ∨
      ∃ r d, .recreate r ∈ undos ∧ r.definition? = some d ∧ x = .createRule listener d := by
  induction b with
  | nil => cases hx
  | cons hone _ ih =>
      rw [requestsIn_append, List.mem_append] at hx
      rcases hx with hx | hx
      · cases hone with
        | deleted _ | notDeleted _ =>
            exact .inl ⟨_, List.mem_cons_self, by simpa using hx⟩
        | recreated hd _ | notRecreated hd _ =>
            exact .inr ⟨_, _, List.mem_cons_self, hd, by simpa using hx⟩
        | notCreatable _ => cases hx
      · rcases ih hx with ⟨arn, hu, hx⟩ | ⟨r, d, hu, hx⟩
        · exact .inl ⟨arn, List.mem_cons_of_mem _ hu, hx⟩
        · exact .inr ⟨r, d, List.mem_cons_of_mem _ hu, hx⟩

/-! ### Whole runs -/

/-- Quiet entries ask neither for a creation nor for a deletion. -/
theorem Quiet.request_ne {t : List Entry} (ht : Quiet t) {x : Request} (hx : x ∈ requestsIn t) :
    (∀ arn, x ≠ .deleteRule arn) ∧ ∀ listener d, x ≠ .createRule listener d := by
  obtain ⟨y, hy, hreq⟩ := List.mem_filterMap.1 hx
  have hquiet := (ht y hy).1
  cases y with
  | report line => cases hreq
  | call r result =>
      obtain rfl := Option.some.inj hreq
      constructor
      · rintro arn rfl
        cases hquiet
      · rintro listener d rfl
        cases hquiet

/-- The names of the platform rules tell them apart if the names of all rules do. -/
theorem nodup_platform {q : Prepared} (harns : (q.rules.map (·.arn)).Nodup) :
    (q.platform.map (·.arn)).Nodup :=
  harns.sublist (List.filter_sublist.map _)

/-- The requests of the forward part of a run that came to its changes. -/
theorem request_cases_forward {h : Host σ} {q : Prepared} {w w' : World σ} {p : Progress}
    {t₀ t t₁ : List Entry} (hquiet : Quiet t₀) (a : Advance h q w t p w') (hquiet' : Quiet t₁)
    {x : Request} (hx : x ∈ requestsIn (t₀ ++ (t ++ t₁))) :
    ((∀ arn, x ≠ .deleteRule arn) ∧ ∀ listener d, x ≠ .createRule listener d) ∨
      (∃ r ∈ q.platform, x = .deleteRule r.arn) ∨
      ∃ d, q.MayCreate d ∧ x = .createRule q.listener d := by
  simp only [requestsIn_append, List.mem_append] at hx
  rcases hx with hx | hx | hx
  · exact .inl (hquiet.request_ne hx)
  · exact .inr (a.request_cases hx)
  · exact .inl (hquiet'.request_ne hx)

section Statement

variable {config : PlatformConfig} {environment : String} {h : Host σ} {w w' : World σ}
  {o : Outcome Changes}

/-- **Only rules of this automation are deleted, each of them once.**  Suppose that the rules of
the listener have different names and that no created rule is given one of them.  Before changes
are taken back, every request to delete names a platform rule of the listener and never a rule of
another owner; no rule is deleted twice, and none that the run has created; and in a mode that
routes copilot traffic no rule is created.  From there on, every request to delete names a rule
that the run has created. -/
theorem update_deletes (hrun : update config environment h w = (o, w'))
    (hlisting : ∀ q w₁, prepare config environment h w = (.ok q, w₁) →
      (q.rules.map (·.arn)).Nodup ∧
        ∀ arn ∈ createdIn (w'.since w), arn ∉ q.rules.map (·.arn)) :
    (∀ arn, .deleteRule arn ∈ requestsIn (forwardPart (w'.since w)) →
      ∃ q w₁, prepare config environment h w = (.ok q, w₁) ∧
        (∃ r ∈ q.rules, r.arn = arn ∧ r.owner = .platform) ∧
        ∀ r ∈ q.rules, r.owner ≠ .platform → r.arn ≠ arn) ∧
    (deletedIn (forwardPart (w'.since w))).Nodup ∧
    (∀ arn ∈ createdIn (forwardPart (w'.since w)),
      .deleteRule arn ∉ requestsIn (forwardPart (w'.since w))) ∧
    (∀ e, config.environment environment = .ok e → e.mode.routesCopilotTraffic = true →
      ∀ listener d, .createRule listener d ∉ requestsIn (forwardPart (w'.since w))) ∧
    (∀ arn, .deleteRule arn ∈ requestsIn (rollbackPart (w'.since w)) →
      arn ∈ createdIn (forwardPart (w'.since w))) := by
  obtain ⟨t, c⟩ := update_course config environment h w
  rw [hrun] at c
  rw [c.path.since_eq] at hlisting ⊢
  rcases c.parts with ⟨hquiet, hback⟩ |
    ⟨q, w₁, t₀, t₁, t₂, p, w₂, hq, hquiet, a, hquiet', hforward, hback⟩
  · -- without changes there is nothing to show
    have hchanges := hquiet.changesIn
    refine ⟨fun arn hx => absurd rfl ((hquiet.request_ne hx).1 arn), ?_, fun arn harn => ?_,
      fun _ _ _ l d hx => absurd rfl ((hquiet.request_ne hx).2 l d), by simp [hback, requestsIn]⟩
    · simp [deletedIn, hchanges]
    · simp [createdIn, hchanges] at harn
  obtain ⟨harns, hnew⟩ := hlisting q w₁ hq
  have hdelete : ∀ arn, .deleteRule arn ∈ requestsIn (forwardPart t) →
      ∃ r ∈ q.platform, r.arn = arn := by
    intro arn hx
    rw [hforward] at hx
    rcases request_cases_forward hquiet a hquiet' hx with hx | ⟨r, hr, hx⟩ | ⟨d, -, hx⟩
    · exact absurd rfl (hx.1 arn)
    · exact ⟨r, hr, (Request.deleteRule.inj hx).symm⟩
    · cases hx
  have hchanges : changesIn (forwardPart t) = changesIn t₁ := by
    rw [hforward, changesIn_between hquiet hquiet']
  have hcreated : createdIn (forwardPart t) = createdIn t₁ := by rw [createdIn, hchanges]; rfl
  have hdeleted : deletedIn (forwardPart t) = deletedIn t₁ := by rw [deletedIn, hchanges]; rfl
  refine ⟨fun arn hx => ?_, ?_, fun arn harn hx => ?_, fun e he hmode l d hx => ?_,
    fun arn hx => ?_⟩
  · obtain ⟨r, hr, rfl⟩ := hdelete arn hx
    obtain ⟨hmem, howner⟩ := mem_platform.1 hr
    refine ⟨q, w₁, hq, ⟨r, hmem, rfl, howner⟩, fun r' hr' howner' harn => howner' ?_⟩
    rw [List.inj_on_of_nodup_map harns hr' hmem harn, howner]
  · rw [hdeleted, a.deletedIn_eq]
    exact a.deleted_nodup (nodup_platform harns)
  · obtain ⟨r, hr, rfl⟩ := hdelete arn hx
    -- the rule was in the listing, but the name of a created rule is new
    refine hnew _ ?_ (List.mem_map.2 ⟨r, (mem_platform.1 hr).1, rfl⟩)
    rw [← forwardPart_append_rollbackPart t, createdIn_append]
    exact List.mem_append_left _ harn
  · rw [hforward] at hx
    rcases request_cases_forward hquiet a hquiet' hx with hx | ⟨r, -, hx⟩ | ⟨d', hd', -⟩
    · exact absurd rfl (hx.2 l d)
    · cases hx
    · obtain ⟨e', _, _, _, _, he', hmode', -⟩ := prepare_eq_ok hq
      obtain rfl := Except.ok.inj (he.symm.trans he')
      have hplatform := hd'.1
      rw [hmode'] at hplatform
      simp [DeploymentMode.routesCopilotTraffic, hplatform] at hmode
  · obtain ⟨w₃, t', done, w₄, hreplay, hx⟩ := hback _ hx
    rw [hcreated]
    rcases hreplay.request_cases hx with ⟨arn', hu, hx⟩ | ⟨_, _, -, -, hx⟩
    · obtain rfl := Request.deleteRule.inj hx
      exact a.mem_createdIn.1 hu
    · cases hx

end Statement

open InMemory in
/-- A run on the small account replaces a rule, and deletes its own rule when it takes that back. -/
theorem update_deletes_small : ∃ o w',
    update (smallConfig .platform) "dev" (host 5) (smallWorld [secondDeletion]) = (o, w') ∧
    (deletedIn (forwardPart (w'.since (smallWorld [secondDeletion])))).Nodup ∧
    .deleteRule "rule-new-1" ∈ requestsIn (rollbackPart (w'.since (smallWorld [secondDeletion]))) ∧
    "rule-new-1" ∈ createdIn (forwardPart (w'.since (smallWorld [secondDeletion]))) := by
  have hfound : ((prepare (smallConfig .platform) "dev" (host 5)
      (smallWorld [secondDeletion])).1.value?.map fun q => q.rules.map (·.arn)) =
      some ["page", "old", "stray", "copilot-rule"] := by
    decide +kernel
  have hcreated : createdIn ((update (smallConfig .platform) "dev" (host 5)
      (smallWorld [secondDeletion])).2.since (smallWorld [secondDeletion])) =
      ["rule-new-1", "rule-new-2"] := by
    decide +kernel
  have hback : .deleteRule "rule-new-1" ∈ requestsIn (rollbackPart ((update (smallConfig .platform)
      "dev" (host 5) (smallWorld [secondDeletion])).2.since (smallWorld [secondDeletion]))) := by
    decide +kernel
  obtain ⟨o, w', hrun⟩ : ∃ o w', update (smallConfig .platform) "dev" (host 5)
      (smallWorld [secondDeletion]) = (o, w') :=
    ⟨_, _, rfl⟩
  rw [hrun] at hcreated hback
  have hlisting : ∀ q w₁, prepare (smallConfig .platform) "dev" (host 5)
      (smallWorld [secondDeletion]) = (.ok q, w₁) → (q.rules.map (·.arn)).Nodup ∧
        ∀ arn ∈ createdIn (w'.since (smallWorld [secondDeletion])), arn ∉ q.rules.map (·.arn) := by
    intro q w₁ hq
    rw [hq] at hfound
    have harns : q.rules.map (·.arn) = ["page", "old", "stray", "copilot-rule"] :=
      Option.some.inj hfound
    rw [harns, hcreated]
    decide
  obtain ⟨-, hnodup, -, -, htaken⟩ := update_deletes hrun hlisting
  exact ⟨o, w', hrun, hnodup, hback, htaken _ hback⟩

end Cutover.Rule
