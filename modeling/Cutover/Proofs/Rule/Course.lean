/-
**The course of a rule update.**

A rule update is refused before its first change, or it changes everything it set out to change,
or its changes stop.  In the last case it either had changed nothing yet, or it takes every change
back, the newest first.  This module says so once for every host; what holds of all rule updates
is then read off the course.

Main definitions:

* `Cutover.Rule.PlaysBack`, `Cutover.Rule.Replay` — how one change and how all changes are taken
  back;
* `Cutover.Rule.Course` — the courses that a rule update can take, with their entries.

Main results:

* `Cutover.Rule.playBackAll_replay` — taking back always comes to an end;
* `Cutover.Rule.update_course` — **every rule update takes one of these courses**;
* `Cutover.Rule.update_tookBack` — a run that fails after changes has taken them back.
-/
import Cutover.Proofs.Rule.Advance
import Cutover.Proofs.Rule.Preparation

set_option autoImplicit false

namespace Cutover.Rule

variable {σ : Type}

/-! ### Taking changes back -/

/-- How one change is taken back: from what was restored so far to what is restored then. -/
inductive PlaysBack (h : Host σ) (listener : String) (done : Restored) (w : World σ) :
    Undo → List Entry → Restored → World σ → Prop
  | deleted {arn : String} : (h.answer (.deleteRule arn) w.state).result = .ok () →
      PlaysBack h listener done w (.delete arn) [.call (.deleteRule arn) (.ok ())]
        { done with byDeletion := done.byDeletion ++ [arn] } (w.after h (.deleteRule arn))
  | notDeleted {arn : String} {e : Failure} :
      (h.answer (.deleteRule arn) w.state).result = .error e →
      PlaysBack h listener done w (.delete arn) [.call (.deleteRule arn) (.error e)]
        { done with failures := done.failures ++
            ["Failed to delete rule " ++ arn ++ " during rollback: " ++ e.message] }
        (w.after h (.deleteRule arn))
  | recreated {r made : ListenerRule} {d : Definition} : r.definition? = some d →
      (h.answer (.createRule listener d) w.state).result = .ok made →
      PlaysBack h listener done w (.recreate r) [.call (.createRule listener d) (.ok made)]
        { done with byCreation := done.byCreation ++ [made.arn] }
        (w.after h (.createRule listener d))
  | notRecreated {r : ListenerRule} {d : Definition} {e : Failure} : r.definition? = some d →
      (h.answer (.createRule listener d) w.state).result = .error e →
      PlaysBack h listener done w (.recreate r) [.call (.createRule listener d) (.error e)]
        { done with failures := done.failures ++
            ["Failed to recreate rule " ++ r.arn ++ " during rollback: " ++ e.message] }
        (w.after h (.createRule listener d))
  | notCreatable {r : ListenerRule} : r.definition? = none →
      PlaysBack h listener done w (.recreate r) []
        { done with failures := done.failures ++
            ["Failed to recreate rule " ++ r.arn ++
              " during rollback: default rules cannot be created"] } w

/-- How changes are taken back one after the other. -/
inductive Replay (h : Host σ) (listener : String) :
    Restored → World σ → List Undo → List Entry → Restored → World σ → Prop
  | nil (done : Restored) (w : World σ) : Replay h listener done w [] [] done w
  | cons {done done₁ done₂ : Restored} {w w₁ w₂ : World σ} {u : Undo} {rest : List Undo}
      {t t' : List Entry} : PlaysBack h listener done w u t done₁ w₁ →
      Replay h listener done₁ w₁ rest t' done₂ w₂ →
      Replay h listener done w (u :: rest) (t ++ t') done₂ w₂

theorem playBack_playsBack (listener : String) (done : Restored) (u : Undo) (h : Host σ)
    (w : World σ) :
    ∃ t done' w', playBack listener done u h w = (.ok done', w') ∧
      PlaysBack h listener done w u t done' w' := by
  cases u with
  | delete arn =>
      rcases hx : (h.answer (.deleteRule arn) w.state).result with e | ⟨⟩
      · exact ⟨_, _, _, Run.bind_ok (Run.attempt_failed (Run.call_error hx)), .notDeleted hx⟩
      · exact ⟨_, _, _, Run.bind_ok (Run.attempt_ok (Run.call_ok hx)), .deleted hx⟩
  | recreate r =>
      cases hd : r.definition? with
      | none =>
          refine ⟨_, _, _, ?_, .notCreatable hd⟩
          simp only [playBack, hd]
          rfl
      | some d =>
          simp only [playBack, hd]
          rcases hx : (h.answer (.createRule listener d) w.state).result with e | made
          · exact ⟨_, _, _, Run.bind_ok (Run.attempt_failed (Run.call_error hx)),
              .notRecreated hd hx⟩
          · exact ⟨_, _, _, Run.bind_ok (Run.attempt_ok (Run.call_ok hx)), .recreated hd hx⟩

/-- Taking changes back always comes to an end. -/
theorem playBackAll_replay (listener : String) (done : Restored) (undos : List Undo)
    (h : Host σ) (w : World σ) :
    ∃ t done' w', playBackAll listener done undos h w = (.ok done', w') ∧
      Replay h listener done w undos t done' w' := by
  induction undos generalizing done w with
  | nil => exact ⟨[], done, w, rfl, .nil done w⟩
  | cons u rest ih =>
      obtain ⟨t, done₁, w₁, hrun, hone⟩ := playBack_playsBack listener done u h w
      obtain ⟨t', done₂, w₂, hrun', hrest⟩ := ih done₁ w₁
      exact ⟨t ++ t', done₂, w₂, (Run.bind_ok hrun).trans hrun', .cons hone hrest⟩

section Entries

variable {h : Host σ} {listener : String} {done done' : Restored} {w w' : World σ}
  {t : List Entry}

theorem PlaysBack.path {u : Undo} (b : PlaysBack h listener done w u t done' w') :
    Path h w t w' := by
  cases b with
  | deleted hx | notDeleted hx => rw [← hx]; exact .single h w _
  | recreated _ hx | notRecreated _ hx => rw [← hx]; exact .single h w _
  | notCreatable _ => exact .refl

theorem Replay.path {undos : List Undo} (b : Replay h listener done w undos t done' w') :
    Path h w t w' := by
  induction b with
  | nil => exact .refl
  | cons hone _ ih => exact hone.path.trans ih

end Entries

/-! ### Whole runs -/

/-- The line about the failure that stopped the changes. -/
def stoppedLine (e : Failure) : ReportLine :=
  ⟨.error, "Error during rule update: " ++ e.message, []⟩

/-- The world in which the taking back begins. -/
def backFrom (w : World σ) (e : Failure) : World σ :=
  Run.note (Run.note w (.report (stoppedLine e))) (.report rollingBackLine)

/-- Entries that neither change anything nor start the taking back. -/
def Quiet (t : List Entry) : Prop := ∀ x ∈ t, x.isMutation = false ∧ x.isRollingBack = false

/-- The courses of a rule update. -/
inductive Course (config : PlatformConfig) (environment : String) (h : Host σ) (w : World σ) :
    List Entry → Outcome Changes → World σ → Prop
  | refused {t : List Entry} {e : Failure} {w' : World σ} :
      prepare config environment h w = (.failed e, w') → Path h w t w' → Quiet t →
      (e.kind ≠ .partialFailure ∨ ∃ r, Entry.call r (.error e) ∈ t) →
      Course config environment h w t (.failed e) w'
  | unfinished {t : List Entry} {w' : World σ} :
      prepare config environment h w = (.unfinished, w') → Path h w t w' → Quiet t →
      Course config environment h w t .unfinished w'
  | changed {q : Prepared} {t₀ t lines : List Entry} {p : Progress} {w₁ w₂ w' : World σ} :
      prepare config environment h w = (.ok q, w₁) → Path h w t₀ w₁ → Quiet t₀ →
      q.apply .start h w₁ = (.ok (p, none), w₂) → Advance h q w₁ t p w₂ →
      w'.state = w₂.state → Path h w₂ lines w' → Quiet lines →
      Course config environment h w (t₀ ++ (t ++ lines)) (.ok p.changes) w'
  | stopped {q : Prepared} {t₀ t : List Entry} {p : Progress} {e : Failure} {w₁ w' : World σ} :
      prepare config environment h w = (.ok q, w₁) → Path h w t₀ w₁ → Quiet t₀ →
      q.apply .start h w₁ = (.ok (p, some e), w') → Advance h q w₁ t p w' →
      StopsWith q.platform t e → p.isUntouched = true →
      Course config environment h w (t₀ ++ t) (.failed e) w'
  | tookBack {q : Prepared} {t₀ t t' lines : List Entry} {p : Progress} {e : Failure}
      {done : Restored} {w₁ w₂ w₃ w' : World σ} :
      prepare config environment h w = (.ok q, w₁) → Path h w t₀ w₁ → Quiet t₀ →
      q.apply .start h w₁ = (.ok (p, some e), w₂) → Advance h q w₁ t p w₂ →
      StopsWith q.platform t e → p.isUntouched = false →
      Replay h q.listener ⟨[], [], []⟩ (backFrom w₂ e) p.undos t' done w₃ →
      w'.state = w₃.state → Path h w₃ lines w' → requestsIn lines = [] →
      Course config environment h w
        (t₀ ++ (t ++ [.report (stoppedLine e)]) ++ .report rollingBackLine :: (t' ++ lines))
        (.failed (done.failure e)) w'

/-- The report of the changes is for information only. -/
theorem quiet_report (c : Changes) : Quiet (c.report.map Entry.report) := by
  intro x hx
  obtain ⟨line, hl, rfl⟩ := List.mem_map.1 hx
  obtain ⟨s, -, rfl⟩ := List.mem_map.1 hl
  exact ⟨rfl, Entry.isRollingBack_report (by simp [rollingBackLine])⟩

section Settling

variable {p : Progress} {h : Host σ} {w : World σ}

/-- A run that came to its changes is settled after them. -/
theorem update_settle {config : PlatformConfig} {environment : String} {q : Prepared}
    {w₁ w₂ : World σ} {stop : Option Failure}
    (hq : prepare config environment h w = (.ok q, w₁))
    (hrun : q.apply .start h w₁ = (.ok (p, stop), w₂)) :
    update config environment h w = settle q.listener (p, stop) h w₂ :=
  (Run.bind_ok hq).trans (Run.bind_ok hrun)

/-- If the changes have not stopped, the run reports and returns them. -/
theorem settle_changed (listener : String) (p : Progress) (h : Host σ) (w : World σ) :
    ∃ lines w', settle listener (p, none) h w = (.ok p.changes, w') ∧ w'.state = w.state ∧
      Path h w lines w' ∧ Quiet lines := by
  obtain ⟨w', hlines, hstate, hpath⟩ := Run.reportAll_path p.changes.report h w
  exact ⟨_, w', Run.bind_ok hlines, hstate, hpath, quiet_report _⟩

/-- If they have stopped before the first one, the run fails with what has stopped them. -/
theorem settle_stopped {listener : String} {e : Failure} (huntouched : p.isUntouched = true) :
    settle listener (p, some e) h w = (.failed e, w) := by
  simp only [settle, huntouched, if_true]
  rfl

/-- Otherwise they are taken back. -/
theorem settle_tookBack (listener : String) (h : Host σ) (w : World σ) (e : Failure)
    (htouched : p.isUntouched = false) :
    ∃ t' done w₃ lines w', settle listener (p, some e) h w = (.failed (done.failure e), w') ∧
      Replay h listener ⟨[], [], []⟩ (backFrom w e) p.undos t' done w₃ ∧
      w'.state = w₃.state ∧ Path h w₃ lines w' ∧ requestsIn lines = [] := by
  obtain ⟨t', done, w₃, hback, hreplay⟩ := playBackAll_replay listener ⟨[], [], []⟩ p.undos h
    (backFrom w e)
  obtain ⟨w', hlines, hstate, hpath⟩ := Run.reportAll_path done.report h w₃
  refine ⟨t', done, w₃, _, w', ?_, hreplay, hstate, hpath, requestsIn_report _⟩
  simp only [settle, htouched]
  exact (Run.bind_ok rfl).trans ((Run.bind_ok rfl).trans
    ((Run.bind_ok hback).trans (Run.bind_ok hlines)))

end Settling

/-- **Every rule update takes one of the courses.** -/
theorem update_course (config : PlatformConfig) (environment : String) (h : Host σ)
    (w : World σ) :
    ∃ t, Course config environment h w t (update config environment h w).1
      (update config environment h w).2 := by
  -- first by what the preparation comes to, then by whether the changes stop and what they did
  obtain ⟨t₀, hpath, hquiet, hfail⟩ := prepare_looks config environment h w
  rcases hq : prepare config environment h w with ⟨q | e | _, w₁⟩
  · rw [hq] at hpath
    obtain ⟨t, p, stop, w₂, hrun, a, hstop⟩ := q.apply_advance h w₁ (prepare_nodup hq)
    have hupdate := update_settle hq hrun
    cases stop with
    | none =>
        obtain ⟨lines, w', hsettle, hstate, hpath', hlines⟩ := settle_changed q.listener p h w₂
        rw [hupdate, hsettle]
        exact ⟨_, .changed hq hpath hquiet hrun a hstate hpath' hlines⟩
    | some e =>
        by_cases huntouched : p.isUntouched = true
        · rw [hupdate, settle_stopped huntouched]
          exact ⟨_, .stopped hq hpath hquiet hrun a (hstop e rfl) huntouched⟩
        · have htouched : p.isUntouched = false := by simpa using huntouched
          obtain ⟨t', done, w₃, lines, w', hsettle, hreplay, hstate, hpath', hlines⟩ :=
            settle_tookBack q.listener h w₂ e htouched
          rw [hupdate, hsettle]
          exact ⟨_, .tookBack hq hpath hquiet hrun a (hstop e rfl) htouched hreplay hstate hpath'
            hlines⟩
  · rw [hq] at hpath hfail
    have hupdate : update config environment h w = (.failed e, w₁) := Run.bind_failed hq
    rw [hupdate]
    exact ⟨t₀, .refused hq hpath hquiet (hfail e rfl)⟩
  · rw [hq] at hpath
    have hupdate : update config environment h w = (.unfinished, w₁) := Run.bind_unfinished hq
    rw [hupdate]
    exact ⟨t₀, .unfinished hq hpath hquiet⟩

/-! ### The parts of a course -/

section Parts

variable {config : PlatformConfig} {environment : String} {h : Host σ} {q : Prepared}
  {w w' : World σ} {t t' : List Entry} {p : Progress} {o : Outcome Changes}

theorem Quiet.not_rollingBack (ht : Quiet t) : ∀ x ∈ t, x.isRollingBack = false :=
  fun x hx => (ht x hx).2

theorem Quiet.changesIn (ht : Quiet t) : changesIn t = [] :=
  changesIn_eq_nil fun x hx => (ht x hx).1

/-- Quiet entries around others add no changes. -/
theorem changesIn_between {t₀ t₁ : List Entry} (ht₀ : Quiet t₀) (ht₁ : Quiet t₁) :
    Cutover.changesIn (t₀ ++ (t ++ t₁)) = Cutover.changesIn t := by
  simp [ht₀.changesIn, ht₁.changesIn]

theorem quiet_stopped (e : Failure) : Quiet [.report (stoppedLine e)] := by
  intro x hx
  obtain rfl := List.mem_singleton.1 hx
  exact ⟨rfl, Entry.isRollingBack_report (by simp [stoppedLine, rollingBackLine])⟩

/-- A course is a path. -/
theorem Course.path (c : Course config environment h w t o w') : Path h w t w' := by
  cases c with
  | refused _ hpath _ _ => exact hpath
  | unfinished _ hpath _ => exact hpath
  | changed _ hpath _ _ a _ hlines _ => exact hpath.trans (a.path.trans hlines)
  | stopped _ hpath _ _ a _ _ => exact hpath.trans a.path
  | tookBack _ hpath _ _ a _ _ hreplay _ hlines _ =>
      have hback := ((Path.line h _ rollingBackLine).trans hreplay.path).trans hlines
      simpa using (hpath.trans (a.path.trans (.line h _ _))).trans hback

/-- Neither the preparation nor the changes nor the reports about them start the taking back. -/
theorem not_rollingBack_forward {lines : List Entry} {w₁ : World σ} (hquiet : Quiet t')
    (a : Advance h q w₁ t p w') (hlines : Quiet lines) :
    ∀ x ∈ t' ++ (t ++ lines), x.isRollingBack = false := by
  intro x hx
  rcases List.mem_append.1 hx with hx | hx
  · exact hquiet.not_rollingBack x hx
  rcases List.mem_append.1 hx with hx | hx
  · exact a.not_rollingBack x hx
  · exact hlines.not_rollingBack x hx

theorem not_rollingBack_stopped {w₁ : World σ} (hquiet : Quiet t') (a : Advance h q w₁ t p w') :
    ∀ x ∈ t' ++ t, x.isRollingBack = false := by
  have hnone : Quiet [] := by simp [Quiet]
  simpa using not_rollingBack_forward hquiet a hnone

/-- The two parts of a course: either it comes to no changes, or its forward part holds the changes
of a prepared run, and every request behind them takes one of these changes back. -/
theorem Course.parts (c : Course config environment h w t o w') :
    (Quiet (forwardPart t) ∧ rollbackPart t = []) ∨
      ∃ q w₁ t₀ t₁ t₂ p w₂, prepare config environment h w = (.ok q, w₁) ∧ Quiet t₀ ∧
        Advance h q w₁ t₁ p w₂ ∧ Quiet t₂ ∧ forwardPart t = t₀ ++ (t₁ ++ t₂) ∧
        ∀ r ∈ requestsIn (rollbackPart t), ∃ w₃ t' done w₄,
          Replay h q.listener ⟨[], [], []⟩ w₃ p.undos t' done w₄ ∧ r ∈ requestsIn t' := by
  cases c with
  | refused _ _ hquiet _ | unfinished _ _ hquiet =>
      have hnot := hquiet.not_rollingBack
      exact .inl ⟨by rwa [forwardPart_eq_self hnot], rollbackPart_eq_nil hnot⟩
  | changed hq _ hquiet _ a _ _ hlines =>
      have hnot := not_rollingBack_forward hquiet a hlines
      exact .inr ⟨_, _, _, _, _, _, _, hq, hquiet, a, hlines, forwardPart_eq_self hnot,
        by simp [rollbackPart_eq_nil hnot, requestsIn]⟩
  | stopped hq _ hquiet _ a _ _ =>
      have hnot := not_rollingBack_stopped hquiet a
      exact .inr ⟨_, _, _, _, [], _, _, hq, hquiet, a, by simp [Quiet],
        by rw [forwardPart_eq_self hnot, List.append_nil],
        by simp [rollbackPart_eq_nil hnot, requestsIn]⟩
  | @tookBack q t₀ t t' lines p cause done w₁ w₂ w₃ _ hq _ hquiet _ a _ _ hreplay _ _ hlines =>
      have hnot := not_rollingBack_forward hquiet a (quiet_stopped cause)
      refine .inr ⟨q, w₁, t₀, t, _, p, w₂, hq, hquiet, a, quiet_stopped cause,
        forwardPart_append hnot, fun r hr => ?_⟩
      rw [rollbackPart_append hnot, ← List.singleton_append, requestsIn_append, requestsIn_append,
        hlines] at hr
      exact ⟨_, t', done, w₃, hreplay, by simpa using hr⟩

/-- A run that fails after changes has taken them back. -/
theorem update_tookBack {e : Failure}
    (hrun : update config environment h w = (.failed e, w'))
    (hchanged : Cutover.changesIn (forwardPart (w'.since w)) ≠ []) :
    ∃ (q : Prepared) (t₀ t t' after : List Entry) (p : Progress) (cause : Failure)
      (done : Restored) (w₁ w₂ w₃ w₄ : World σ),
      prepare config environment h w = (.ok q, w₁) ∧ Quiet t₀ ∧ Advance h q w₁ t p w₂ ∧
      Replay h q.listener ⟨[], [], []⟩ w₃ p.undos t' done w₄ ∧ requestsIn after = [] ∧
      w'.since w = t₀ ++ (t ++ [.report (stoppedLine cause)]) ++
        .report rollingBackLine :: (t' ++ after) ∧
      e = done.failure cause := by
  obtain ⟨t, c⟩ := update_course config environment h w
  rw [hrun] at c
  have hsince := c.path.since_eq
  rw [hsince] at hchanged
  cases c with
  | refused _ _ hquiet _ =>
      rw [forwardPart_eq_self hquiet.not_rollingBack, hquiet.changesIn] at hchanged
      exact absurd rfl hchanged
  | stopped _ _ hquiet _ a _ huntouched =>
      rw [forwardPart_eq_self (not_rollingBack_stopped hquiet a), changesIn_append,
        hquiet.changesIn, a.isUntouched_iff.1 huntouched] at hchanged
      exact absurd rfl hchanged
  | tookBack hq _ hquiet _ a _ _ hreplay _ _ hafter =>
      exact ⟨_, _, _, _, _, _, _, _, _, _, _, _, hq, hquiet, a, hreplay, hafter, hsince, rfl⟩

end Parts

end Cutover.Rule
