/-
**The changes of a rule update, one by one.**

Between its preparation and its end a rule update creates planned rules and deletes platform
rules, in an order that depends on what its host answers.  This module says once what a single
change can be, and that the changes of every mode are a sequence of such single changes.  What
holds of every change of a run is then proved by induction on that sequence.

Main definitions:

* `Cutover.Rule.Prepared.MayCreate`, `Cutover.Rule.Prepared.MayDelete` — what a prepared run may
  create and delete;
* `Cutover.Rule.Advance` — how far the changes of a run have come, with their entries;
* `Cutover.Rule.causeOf`, `Cutover.Rule.StopsWith` — why the changes of a run stop.

Main results:

* `Cutover.Rule.Prepared.apply_advance` — the changes of a prepared run are a sequence of single
  changes, and if they stop it is because of the last request;
* `Cutover.Rule.Advance.path`, `Cutover.Rule.Advance.changes_eq` — such a sequence is a path, and
  its changes are those that can be taken back.
-/
import Mathlib.Data.List.Nodup
import Cutover.Proofs.Rule.Trace
import Cutover.Rule.Update

set_option autoImplicit false

namespace Cutover.Rule

variable {σ : Type}

/-! ### What may be changed -/

namespace Prepared

/-- What a prepared run may create: in a mode that routes platform traffic, what is planned. -/
def MayCreate (q : Prepared) (d : Definition) : Prop :=
  q.mode.routesPlatformTraffic = true ∧ ∃ rule ∈ q.planned, rule.definition = d

/-- What a prepared run may delete when it has come so far: a platform rule that it has not
deleted, provided that the names of the platform rules tell them apart. -/
def MayDelete (q : Prepared) (p : Progress) (r : ListenerRule) : Prop :=
  r ∈ q.platform ∧
    ((q.platform.map (·.arn)).Nodup → ∀ d ∈ p.changes.deleted, d.arn ≠ r.arn)

end Prepared

theorem mem_platform {q : Prepared} {r : ListenerRule} :
    r ∈ q.platform ↔ r ∈ q.rules ∧ r.owner = .platform := by
  simp [Prepared.platform, classify, ownedBy]

/-! ### Single changes -/

/-- How far the changes of a prepared run have come from a world on: the entries, what is changed,
and the world that is reached. -/
inductive Advance (h : Host σ) (q : Prepared) (w : World σ) :
    List Entry → Progress → World σ → Prop
  | start : Advance h q w [] .start w
  | report {t : List Entry} {p : Progress} {w' : World σ} (line : ReportLine) :
      Advance h q w t p w' → line ≠ rollingBackLine →
      Advance h q w (t ++ [.report line]) p (Run.note w' (.report line))
  | createRefused {t : List Entry} {p : Progress} {w' : World σ} {d : Definition} {e : Failure} :
      Advance h q w t p w' → q.MayCreate d →
      (h.answer (.createRule q.listener d) w'.state).result = .error e →
      Advance h q w (t ++ [.call (.createRule q.listener d) (.error e)]) p
        (w'.after h (.createRule q.listener d))
  | created {t : List Entry} {p : Progress} {w' : World σ} {d : Definition} {r : ListenerRule} :
      Advance h q w t p w' → q.MayCreate d →
      (h.answer (.createRule q.listener d) w'.state).result = .ok r →
      Advance h q w (t ++ [.call (.createRule q.listener d) (.ok r)]) (p.addCreated r)
        (w'.after h (.createRule q.listener d))
  | deleteRefused {t : List Entry} {p : Progress} {w' : World σ} {r : ListenerRule}
      {e : Failure} :
      Advance h q w t p w' → q.MayDelete p r →
      (h.answer (.deleteRule r.arn) w'.state).result = .error e →
      Advance h q w (t ++ [.call (.deleteRule r.arn) (.error e)]) p
        (w'.after h (.deleteRule r.arn))
  | deleted {t : List Entry} {p : Progress} {w' : World σ} {r : ListenerRule} :
      Advance h q w t p w' → q.MayDelete p r →
      (h.answer (.deleteRule r.arn) w'.state).result = .ok () →
      Advance h q w (t ++ [.call (.deleteRule r.arn) (.ok ())]) (p.addDeleted r)
        (w'.after h (.deleteRule r.arn))

namespace Advance

variable {h : Host σ} {q : Prepared} {w w' : World σ} {t : List Entry} {p : Progress}

/-- The changes of a run are a path. -/
theorem path (a : Advance h q w t p w') : Path h w t w' := by
  induction a with
  | start => exact .refl
  | report line _ _ ih => exact ih.report line
  | createRefused _ _ hx ih => rw [← hx]; exact ih.call _
  | created _ _ hx ih => rw [← hx]; exact ih.call _
  | deleteRefused _ _ hx ih => rw [← hx]; exact ih.call _
  | deleted _ _ hx ih => rw [← hx]; exact ih.call _

/-- None of the entries starts the taking back. -/
theorem not_rollingBack (a : Advance h q w t p w') : ∀ x ∈ t, x.isRollingBack = false := by
  induction a with
  | start => simp
  | report line _ hl ih =>
      intro x hx
      rcases List.mem_append.1 hx with hx | hx
      · exact ih x hx
      · rw [List.mem_singleton.1 hx]
        exact Entry.isRollingBack_report hl
  | createRefused _ _ _ ih | created _ _ _ ih | deleteRefused _ _ _ ih | deleted _ _ _ ih =>
      intro x hx
      rcases List.mem_append.1 hx with hx | hx
      · exact ih x hx
      · rw [List.mem_singleton.1 hx]
        rfl

/-- The changes that the entries show are those that can be taken back, the newest first. -/
theorem changes_eq (a : Advance h q w t p w') :
    p.undos.map Undo.change = (changesIn t).reverse := by
  induction a with
  | start => rfl
  | report _ _ _ ih | createRefused _ _ _ ih | deleteRefused _ _ _ ih => simpa using ih
  | created _ _ _ ih => simp [Progress.addCreated, Undo.change, ih]
  | deleted _ _ _ ih => simp [Progress.addDeleted, Undo.change, ih]

/-- The rules that the entries show as deleted are those that the run has deleted. -/
theorem deletedIn_eq (a : Advance h q w t p w') :
    deletedIn t = p.changes.deleted.map (·.arn) := by
  induction a with
  | start => rfl
  | report _ _ _ ih | createRefused _ _ _ ih | deleteRefused _ _ _ ih => simpa using ih
  | created _ _ _ ih => simpa [Progress.addCreated] using ih
  | deleted _ _ _ ih => simp [Progress.addDeleted, ih]

/-- The rules that can be created again are those that were deleted, the newest first. -/
theorem recreated_eq (a : Advance h q w t p w') :
    p.undos.filterMap Undo.recreated? = p.changes.deleted.reverse := by
  induction a with
  | start => rfl
  | report _ _ _ ih | createRefused _ _ _ ih | deleteRefused _ _ _ ih => exact ih
  | created _ _ _ ih => exact (List.filterMap_cons_none rfl).trans ih
  | deleted _ _ _ ih => simp [Progress.addDeleted, ih]

/-- Only platform rules are deleted. -/
theorem deleted_platform (a : Advance h q w t p w') : ∀ r ∈ p.changes.deleted, r ∈ q.platform := by
  induction a with
  | start => simp [Progress.start]
  | report _ _ _ ih | createRefused _ _ _ ih | deleteRefused _ _ _ ih | created _ _ _ ih => exact ih
  | deleted _ hr _ ih =>
      intro x hx
      rcases List.mem_append.1 hx with hx | hx
      · exact ih x hx
      · rw [List.mem_singleton.1 hx]
        exact hr.1

/-- The creations that can be taken back are those that the entries show. -/
theorem mem_createdIn (a : Advance h q w t p w') {arn : String} :
    .delete arn ∈ p.undos ↔ arn ∈ createdIn t := by
  have hundo : .delete arn ∈ p.undos ↔ Change.created arn ∈ p.undos.map Undo.change := by
    refine ⟨fun hu => List.mem_map.2 ⟨_, hu, rfl⟩, fun hc => ?_⟩
    obtain ⟨u, hu, heq⟩ := List.mem_map.1 hc
    cases u <;> cases heq
    exact hu
  rw [hundo, a.changes_eq, List.mem_reverse, createdIn, List.mem_filterMap]
  refine ⟨fun hc => ⟨_, hc, rfl⟩, ?_⟩
  rintro ⟨c, hc, heq⟩
  cases c <;> cases heq
  exact hc

/-- A run is untouched exactly if its entries show no change. -/
theorem isUntouched_iff (a : Advance h q w t p w') :
    p.isUntouched = true ↔ changesIn t = [] := by
  rw [Progress.isUntouched, List.isEmpty_iff, ← List.map_eq_nil_iff, a.changes_eq,
    List.reverse_eq_nil_iff]

end Advance

/-! ### Why changes stop -/

/-- The failure of a run of which a request was refused: that of the request, unless it asked for
a priority that is in use and that no platform rule has. -/
def causeOf (platform : List ListenerRule) (e : Failure) : Request → Failure
  | .createRule _ d =>
    if e.code? = some priorityInUseCode ∧
        ∀ r ∈ platform, r.priority ≠ .number d.priority then
      .priorityInUse d.priority
    else e
  | _ => e

/-- Entries that end with a refused request, from which a failure follows, and with reports. -/
def StopsWith (platform : List ListenerRule) (t : List Entry) (cause : Failure) : Prop :=
  ∃ before r e after, t = before ++ .call r (.error e) :: after ∧
    requestsIn after = [] ∧ cause = causeOf platform e r

theorem StopsWith.append {platform : List ListenerRule} {t : List Entry} {cause : Failure}
    (t' : List Entry) (ht : StopsWith platform t cause) : StopsWith platform (t' ++ t) cause := by
  obtain ⟨before, r, e, after, rfl, hafter, hcause⟩ := ht
  exact ⟨t' ++ before, r, e, after, by simp, hafter, hcause⟩

/-- A part of a run, from where the changes have come, goes on with them; if it stops, then
because of its last request. -/
def Goes (h : Host σ) (q : Prepared) (w : World σ) (s : Step σ) (t : List Entry) (p : Progress)
    (w₁ : World σ) (post : Progress → Prop) : Prop :=
  ∃ t' p' stop w₂, s p h w₁ = (.ok (p', stop), w₂) ∧ Advance h q w (t ++ t') p' w₂ ∧
    (∀ e, stop = some e → StopsWith q.platform t' e) ∧ post p'

section Parts

variable {h : Host σ} {q : Prepared} {w w₁ w₂ : World σ} {t : List Entry} {p p₁ : Progress}
  {s s' : Step σ} {post post' : Progress → Prop}

theorem andThen_ok (hs : s p h w₁ = (.ok (p₁, none), w₂)) :
    andThen s s' p h w₁ = s' p₁ h w₂ :=
  Run.bind_ok hs

theorem andThen_stop {e : Failure} (hs : s p h w₁ = (.ok (p₁, some e), w₂)) :
    andThen s s' p h w₁ = (.ok (p₁, some e), w₂) :=
  Run.bind_ok hs

/-- A part that does nothing. -/
theorem Goes.skip (a : Advance h q w t p w₁) (hp : post p) :
    Goes h q w (fun p => return (p, none)) t p w₁ post :=
  ⟨[], p, none, w₁, rfl, by rwa [List.append_nil], by simp, hp⟩

/-- One part after another. -/
theorem Goes.andThen (hs : Goes h q w s t p w₁ post)
    (hs' : ∀ t p w₁, Advance h q w t p w₁ → post p → Goes h q w s' t p w₁ post')
    (himp : ∀ p, post p → post' p) : Goes h q w (andThen s s') t p w₁ post' := by
  obtain ⟨t₁, p₁, stop₁, w₂, hrun, a, hstop, hp⟩ := hs
  cases stop₁ with
  | some e =>
      exact ⟨t₁, p₁, some e, w₂, andThen_stop hrun, a, hstop, himp p₁ hp⟩
  | none =>
      obtain ⟨t₂, p₂, stop₂, w₃, hrun', a', hstop', hp'⟩ := hs' _ _ _ a hp
      exact ⟨t₁ ++ t₂, p₂, stop₂, w₃, (andThen_ok hrun).trans hrun',
        by rwa [← List.append_assoc], fun e he => (hstop' e he).append t₁, hp'⟩

/-- A part after a line that is reported. -/
theorem Goes.info {message : String} (a : Advance h q w t p w₁)
    (hs : ∀ t w₁, Advance h q w t p w₁ → Goes h q w s t p w₁ post) :
    Goes h q w (fun p => do Run.info message; s p) t p w₁ post := by
  have hline : (⟨.info, message, []⟩ : ReportLine) ≠ rollingBackLine := by
    simp [rollingBackLine]
  obtain ⟨t', p', stop, w₂, hrun, a', hstop, hp⟩ := hs _ _ (a.report _ hline)
  exact ⟨.report ⟨.info, message, []⟩ :: t', p', stop, w₂, hrun, by simpa using a',
    fun e he => (hstop e he).append [_], hp⟩

/-! ### The parts of a run -/

theorem create_made {listener : String} {d : Definition} {r : ListenerRule}
    (hx : (h.answer (.createRule listener d) w.state).result = .ok r) :
    create listener d p h w = (.ok (p.addCreated r, none), w.after h (.createRule listener d)) :=
  Run.bind_ok (Run.attempt_ok (Run.call_ok hx))

theorem create_refused {listener : String} {d : Definition} {e : Failure}
    (hx : (h.answer (.createRule listener d) w.state).result = .error e) :
    create listener d p h w = (.ok (p, some e), w.after h (.createRule listener d)) :=
  Run.bind_ok (Run.attempt_failed (Run.call_error hx))

theorem delete_made {r : ListenerRule}
    (hx : (h.answer (.deleteRule r.arn) w.state).result = .ok ()) :
    delete r p h w = (.ok (p.addDeleted r, none), w.after h (.deleteRule r.arn)) :=
  Run.bind_ok (Run.attempt_ok (Run.call_ok hx))

/-- A request to create a rule, with what it does in either case. -/
theorem create_cases (listener : String) (d : Definition) (p : Progress) (h : Host σ)
    (w : World σ) :
    (∃ r, (h.answer (.createRule listener d) w.state).result = .ok r ∧
      create listener d p h w =
        (.ok (p.addCreated r, none), w.after h (.createRule listener d))) ∨
    (∃ e, (h.answer (.createRule listener d) w.state).result = .error e ∧
      create listener d p h w = (.ok (p, some e), w.after h (.createRule listener d))) := by
  rcases hx : (h.answer (.createRule listener d) w.state).result with e | r
  · exact .inr ⟨e, rfl, create_refused hx⟩
  · exact .inl ⟨r, rfl, create_made hx⟩

/-- The line about a rule that could not be deleted. -/
def notDeletedLine (r : ListenerRule) (e : Failure) : ReportLine :=
  ⟨.error, "Failed to delete existing rule " ++ r.arn ++ ": " ++ e.message, [("rule", r.arn)]⟩

/-- A request to delete a rule, with what it does in either case. -/
theorem delete_cases (r : ListenerRule) (p : Progress) (h : Host σ) (w : World σ) :
    ((h.answer (.deleteRule r.arn) w.state).result = .ok () ∧
      delete r p h w = (.ok (p.addDeleted r, none), w.after h (.deleteRule r.arn))) ∨
    (∃ e, (h.answer (.deleteRule r.arn) w.state).result = .error e ∧
      delete r p h w = (.ok (p, some e),
        Run.note (w.after h (.deleteRule r.arn)) (.report (notDeletedLine r e)))) := by
  rcases hx : (h.answer (.deleteRule r.arn) w.state).result with e | ⟨⟩
  · exact .inr ⟨e, rfl, Run.bind_ok (Run.attempt_failed (Run.call_error hx))⟩
  · exact .inl ⟨rfl, delete_made hx⟩

/-- A rule is deleted that may be. -/
theorem delete_goes (post : Progress → Prop) {r : ListenerRule} (a : Advance h q w t p w₁)
    (hr : q.MayDelete p r) (hp : post p) (hp' : post (p.addDeleted r)) :
    Goes h q w (delete r) t p w₁ post := by
  rcases delete_cases r p h w₁ with ⟨hx, hrun⟩ | ⟨e, hx, hrun⟩
  · exact ⟨_, _, _, _, hrun, a.deleted hr hx, by simp, hp'⟩
  · have hline : notDeletedLine r e ≠ rollingBackLine := by
      simp [notDeletedLine, rollingBackLine]
    refine ⟨[.call (.deleteRule r.arn) (.error e), .report (notDeletedLine r e)], _, _, _, hrun,
      by simpa using (a.deleteRefused hr hx).report _ hline, ?_, hp⟩
    rintro _ ⟨⟩
    exact ⟨[], _, e, [.report (notDeletedLine r e)], rfl, by simp, rfl⟩

/-! ### Creation of planned rules -/

/-- What a run has deleted does not have the priorities of rules that are still to be created. -/
def Clear (q : Prepared) (rules : List Planned) (p : Progress) : Prop :=
  ∀ d ∈ p.changes.deleted, d ∈ q.platform ∧
    ∀ rule ∈ rules, d.priority ≠ .number rule.definition.priority

theorem Clear.tail {rule : Planned} {rest : List Planned} (hc : Clear q (rule :: rest) p) :
    Clear q rest p := fun d hd =>
  ⟨(hc d hd).1, fun r hr => (hc d hd).2 r (List.mem_cons_of_mem _ hr)⟩

/-- The rule that has a priority is a platform rule with that priority. -/
theorem holderOf_some {platform : List ListenerRule} {n : Nat} {holder : ListenerRule}
    (hh : holderOf platform n = some holder) : holder ∈ platform ∧ holder.priority = .number n := by
  refine ⟨List.mem_of_find?_eq_some hh, ?_⟩
  have hp := List.find?_some hh
  cases hprio : holder.priority with
  | default => simp [hprio, Priority.toNat?] at hp
  | number m => simpa [hprio, Priority.toNat?] using hp

theorem holderOf_none {platform : List ListenerRule} {n : Nat}
    (hh : holderOf platform n = none) : ∀ r ∈ platform, r.priority ≠ .number n := by
  intro r hr hprio
  have := List.find?_eq_none.1 hh r hr
  simp [hprio, Priority.toNat?] at this

/-- The holder of the priority of a rule that is still to be created may be deleted. -/
theorem mayDelete_holder {rule : Planned} {rest : List Planned} {holder : ListenerRule}
    (hc : Clear q (rule :: rest) p)
    (hh : holderOf q.platform rule.definition.priority = some holder) :
    q.MayDelete p holder := by
  obtain ⟨hmem, hprio⟩ := holderOf_some hh
  refine ⟨hmem, fun hnodup d hd harn => ?_⟩
  obtain ⟨hd, hdprio⟩ := hc d hd
  -- equal names make the two the same rule, which has only one priority
  have : d = holder := List.inj_on_of_nodup_map hnodup hd hmem harn
  exact hdprio rule (by simp) (this ▸ hprio)

theorem createReplacing_created {listener : String} {platform : List ListenerRule}
    {rule : Planned} {p' : Progress} {w₂ : World σ}
    (hrun : create listener rule.definition p h w₁ = (.ok (p', none), w₂)) :
    createReplacing listener platform rule p h w₁ = (.ok (p', none), w₂) :=
  Run.bind_ok hrun

theorem createReplacing_refused {listener : String} {platform : List ListenerRule}
    {rule : Planned} {p' : Progress} {e : Failure} {w₂ : World σ}
    (hrun : create listener rule.definition p h w₁ = (.ok (p', some e), w₂)) :
    createReplacing listener platform rule p h w₁ =
      if e.code? = some priorityInUseCode then
        match holderOf platform rule.definition.priority with
        | none => (.ok (p', some (.priorityInUse rule.definition.priority)), w₂)
        | some holder => andThen (delete holder) (create listener rule.definition) p' h w₂
      else (.ok (p', some e), w₂) := by
  refine (Run.bind_ok hrun).trans ?_
  by_cases hcode : e.code? = some priorityInUseCode
  · simp only [hcode, if_true]
    cases holderOf platform rule.definition.priority <;> rfl
  · simp only [hcode, if_false]
    rfl

/-- A planned rule is created that may be. -/
theorem create_goes {d : Definition} (a : Advance h q w t p w₁) (hd : q.MayCreate d)
    (hinUse : holderOf q.platform d.priority ≠ none)
    (hp : post p) (hp' : ∀ r, post (p.addCreated r)) :
    Goes h q w (create q.listener d) t p w₁ post := by
  rcases create_cases q.listener d p h w₁ with ⟨r, hx, hrun⟩ | ⟨e, hx, hrun⟩
  · exact ⟨_, _, _, _, hrun, a.created hd hx, by simp, hp' r⟩
  · refine ⟨_, _, _, _, hrun, a.createRefused hd hx, ?_, hp⟩
    rintro _ ⟨⟩
    refine ⟨[], _, e, [], rfl, rfl, ?_⟩
    -- the priority has a holder, so the failure is passed on as it is
    obtain ⟨holder, hh⟩ := Option.ne_none_iff_exists'.1 hinUse
    obtain ⟨hmem, hprio⟩ := holderOf_some hh
    rw [causeOf, if_neg]
    exact fun hcode => hcode.2 holder hmem hprio

theorem createReplacing_goes {rule : Planned} {rest : List Planned}
    (a : Advance h q w t p w₁) (hd : q.MayCreate rule.definition)
    (hnodup : rule.definition.priority ∉ rest.map (·.definition.priority))
    (hc : Clear q (rule :: rest) p) :
    Goes h q w (createReplacing q.listener q.platform rule) t p w₁ (Clear q rest) := by
  rcases create_cases q.listener rule.definition p h w₁ with ⟨r, hx, hrun⟩ | ⟨e, hx, hrun⟩
  · exact ⟨_, _, _, _, createReplacing_created hrun, a.created hd hx, by simp, hc.tail⟩
  have a' := a.createRefused hd hx
  by_cases hcode : e.code? = some priorityInUseCode
  · cases hh : holderOf q.platform rule.definition.priority with
    | none =>
        refine ⟨_, p, some (.priorityInUse rule.definition.priority), _, ?_, a', ?_, hc.tail⟩
        · rw [createReplacing_refused hrun, if_pos hcode, hh]
        · rintro _ ⟨⟩
          refine ⟨[], _, e, [], rfl, rfl, ?_⟩
          rw [causeOf, if_pos ⟨hcode, holderOf_none hh⟩]
    | some holder =>
        obtain ⟨hmem, hprio⟩ := holderOf_some hh
        -- the holder has the priority of this rule, which no rule behind it has
        have hdeleted : Clear q rest (p.addDeleted holder) := by
          intro d hd
          rcases List.mem_append.1 hd with hd | hd
          · exact hc.tail d hd
          · rw [List.mem_singleton.1 hd]
            refine ⟨hmem, fun r hr heq => hnodup ?_⟩
            have hn := Priority.number.inj (hprio.symm.trans heq)
            exact List.mem_map.2 ⟨r, hr, hn.symm⟩
        have hgoes : Goes h q w (andThen (delete holder) (create q.listener rule.definition)) _ p _
            (Clear q rest) :=
          (delete_goes (Clear q rest) a' (mayDelete_holder hc hh) hc.tail hdeleted).andThen
            (fun _ _ _ a'' hp => create_goes a'' hd (by simp [hh]) hp fun r => hp) fun _ hp => hp
        obtain ⟨t', p', stop, w₂, hrun', a'', hstop, hp⟩ := hgoes
        refine ⟨_ :: t', p', stop, w₂, ?_, by simpa using a'',
          fun e he => (hstop e he).append [_], hp⟩
        rw [createReplacing_refused hrun, if_pos hcode, hh]
        exact hrun'
  · refine ⟨_, p, some e, _, ?_, a', ?_, hc.tail⟩
    · rw [createReplacing_refused hrun, if_neg hcode]
    · rintro _ ⟨⟩
      refine ⟨[], _, e, [], rfl, rfl, ?_⟩
      rw [causeOf, if_neg fun hc => hcode hc.1]

theorem createAll_goes {rules : List Planned} (a : Advance h q w t p w₁)
    (hd : ∀ rule ∈ rules, q.MayCreate rule.definition)
    (hnodup : (rules.map (·.definition.priority)).Nodup) (hc : Clear q rules p) :
    Goes h q w (createAll q.listener q.platform rules) t p w₁ (Clear q []) := by
  induction rules generalizing t p w₁ with
  | nil => exact Goes.skip a hc
  | cons rule rest ih =>
      obtain ⟨hnot, hnodup⟩ := List.nodup_cons.1 hnodup
      refine Goes.info a fun t w₁ a => ?_
      refine (createReplacing_goes a (hd rule (by simp)) hnot hc).andThen
        (fun t p w₁ a hc => ih a (fun r hr => hd r (by simp [hr])) hnodup hc) ?_
      -- where the run stops, no rule is left to be clear of
      exact fun p hc d hd => ⟨(hc d hd).1, by simp⟩

/-! ### Deletion of platform rules -/

theorem deleteReported_goes (post : Progress → Prop) {r : ListenerRule} (a : Advance h q w t p w₁)
    (hr : q.MayDelete p r) (hp : post p) (hp' : post (p.addDeleted r)) :
    Goes h q w (deleteReported r) t p w₁ post :=
  Goes.info a fun _ _ a => delete_goes post a hr hp hp'

theorem deleteRemaining_cons (r : ListenerRule) (rest : List ListenerRule) (p : Progress) :
    (deleteRemaining (r :: rest) : Step σ) p =
      if p.changes.deleted.any (fun d => d.arn == r.arn) then deleteRemaining rest p
      else andThen (deleteReported r) (deleteRemaining rest) p := rfl

theorem deleteRemaining_goes {rules : List ListenerRule} (a : Advance h q w t p w₁)
    (hr : ∀ r ∈ rules, r ∈ q.platform) :
    Goes h q w (deleteRemaining rules) t p w₁ fun _ => True := by
  induction rules generalizing t p w₁ with
  | nil => exact Goes.skip a trivial
  | cons r rest ih =>
      have hrest : ∀ r ∈ rest, r ∈ q.platform := fun r hr' => hr r (by simp [hr'])
      by_cases hdel : p.changes.deleted.any (fun d => d.arn == r.arn)
      · obtain ⟨t', p', stop, w₂, hrun, hrest⟩ := ih a hrest
        refine ⟨t', p', stop, w₂, ?_, hrest⟩
        rw [deleteRemaining_cons, if_pos hdel]
        exact hrun
      · have hmay : q.MayDelete p r := by
          refine ⟨hr r (by simp), fun _ d hd harn => hdel ?_⟩
          exact List.any_eq_true.2 ⟨d, hd, by simpa using harn⟩
        obtain ⟨t', p', stop, w₂, hrun, hgoes⟩ :=
          (deleteReported_goes (fun _ => True) a hmay trivial trivial).andThen
            (fun t p w₁ a _ => ih a hrest) fun _ hp => hp
        refine ⟨t', p', stop, w₂, ?_, hgoes⟩
        rw [deleteRemaining_cons, if_neg hdel]
        exact hrun

theorem deleteAll_goes {rules : List ListenerRule} (a : Advance h q w t p w₁)
    (hr : ∀ r ∈ rules, r ∈ q.platform)
    (hnew : (q.platform.map (·.arn)).Nodup →
      (rules.map (·.arn)).Nodup ∧ ∀ d ∈ p.changes.deleted, d.arn ∉ rules.map (·.arn)) :
    Goes h q w (deleteAll rules) t p w₁ fun _ => True := by
  induction rules generalizing t p w₁ with
  | nil => exact Goes.skip a trivial
  | cons r rest ih =>
      have hmay : q.MayDelete p r := by
        refine ⟨hr r (by simp), fun hnodup d hd harn => (hnew hnodup).2 d hd ?_⟩
        simp [harn]
      -- after this rule, nothing that is deleted stands among the remaining ones
      let post : Progress → Prop := fun p' => (q.platform.map (·.arn)).Nodup →
        ∀ d ∈ p'.changes.deleted, d.arn ∉ rest.map (·.arn)
      have hp : post p := fun hnodup d hd hmem =>
        (hnew hnodup).2 d hd (List.mem_cons_of_mem _ hmem)
      have hp' : post (p.addDeleted r) := by
        intro hnodup d hd
        rcases List.mem_append.1 hd with hd | hd
        · exact hp hnodup d hd
        · rw [List.mem_singleton.1 hd]
          exact (List.nodup_cons.1 (hnew hnodup).1).1
      refine (deleteReported_goes post a hmay hp hp').andThen (fun t p w₁ a hpost => ?_)
        fun _ _ => trivial
      exact ih a (fun r hr' => hr r (by simp [hr'])) fun hnodup =>
        ⟨(List.nodup_cons.1 (hnew hnodup).1).2, hpost hnodup⟩

end Parts

/-- **The changes of a prepared run are a sequence of single changes.**  If they stop, it is
because of the last request that was made. -/
theorem Prepared.apply_advance {q : Prepared} (h : Host σ) (w : World σ)
    (hnodup : (q.planned.map (·.definition.priority)).Nodup) :
    ∃ t p stop w', q.apply .start h w = (.ok (p, stop), w') ∧ Advance h q w t p w' ∧
      ∀ e, stop = some e → StopsWith q.platform t e := by
  by_cases hmode : q.mode.routesPlatformTraffic = true
  · have hgoes : Goes h q w (andThen (createAll q.listener q.platform q.planned)
        (deleteRemaining q.platform)) [] .start w fun _ => True :=
      (createAll_goes .start (fun rule hr => ⟨hmode, rule, hr, rfl⟩) hnodup
        (fun d hd => by simp [Progress.start] at hd)).andThen
        (fun t p w₁ a _ => deleteRemaining_goes a fun r hr => hr) fun _ _ => trivial
    obtain ⟨t, p, stop, w', hrun, a, hstop, -⟩ := hgoes
    refine ⟨t, p, stop, w', ?_, a, hstop⟩
    rw [Prepared.apply, applyPlan, if_pos hmode]
    exact hrun
  · obtain ⟨t, p, stop, w', hrun, a, hstop, -⟩ :=
      deleteAll_goes (q := q) (Advance.start (h := h) (w := w)) (fun r hr => hr)
        fun hnodup => ⟨hnodup, by simp [Progress.start]⟩
    refine ⟨t, p, stop, w', ?_, a, hstop⟩
    rw [Prepared.apply, applyPlan, if_neg hmode]
    exact hrun

end Cutover.Rule
