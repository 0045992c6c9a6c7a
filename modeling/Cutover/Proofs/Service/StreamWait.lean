/-
**The wait for log streams.**

Before the logs of a deployment can be followed its streams have to exist.  The wait is a poll over
passes, and what one pass leaves is what the next one asks for: the streams that no answer has shown
yet.  So the requests of a wait say everything about it, whatever the host answers and whenever the
streams appear.

Main definitions:

* `Cutover.Service.Pass` — one pass in the course of the wait;
* `Cutover.Service.Checks` — how an attempt of the wait is such a pass;
* `Cutover.Service.Ends` — what the requests of a wait mean for its end.

Main results:

* `Cutover.Service.unseen_of_tries` — every pass asks for what is unseen behind those in front of
  it;
* `Cutover.Service.ends_of_tries` — the wait ends as its requests say;
* `Cutover.Service.awaitStreams_exact` — **the wait asks for unseen streams only, and returns
  exactly if every stream was shown**.
-/
import Cutover.Proofs.Run.Attempts
import Cutover.Proofs.Service.StreamPass

set_option autoImplicit false

namespace Cutover.Service

variable {σ : Type} {h : Host σ} {group : String} {streams missing : List String}
  {w w' : World σ}

/-! ### Passes as attempts -/

/-- One pass in the course of the wait: when it begins and ends, and its requests. -/
structure Pass where
  begun : Nat
  ended : Nat
  queries : List Query

/-- The requests of passes. -/
def asked (passes : List Pass) : List Query := passes.flatMap Pass.queries

@[simp] theorem asked_nil : asked [] = [] := rfl

@[simp] theorem asked_cons (p : Pass) (passes : List Pass) :
    asked (p :: passes) = p.queries ++ asked passes :=
  List.flatMap_cons

/-- What the streams that a pass leaves mean for the wait. -/
def judged (left : List String) : Attempt Unit (List String) :=
  if left.isEmpty then .done () else .again left

/-- An attempt of the wait is a pass over the streams that are missing, without a wait. -/
structure Checks (group : String) (h : Host σ) (p : Pass) (missing : List String) (w : World σ)
    (o : Outcome (Attempt Unit (List String))) (w' : World σ) : Prop where
  begun : p.begun = w.clock
  ended : p.ended = w'.clock
  ran : streamPass group missing h w = (o, w')
  prompt : Prompt h w (p.queries.map (Query.entry group)) w'
  passes : ∃ left, Passes missing p.queries left ∧ o = left.map judged

/-- Every attempt of the wait is a pass. -/
theorem exists_checks (group : String) (h : Host σ) (missing : List String) (w : World σ) :
    ∃ p, Checks group h p missing w (streamPass group missing h w).1
      (streamPass group missing h w).2 := by
  obtain ⟨queries, o, w', hrun, hprompt, hpasses⟩ := missingStreams_passes group missing h w
  have hpass : streamPass group missing h w = (o.map judged, w') := Run.bind_pure_eq hrun _
  rw [hpass]
  exact ⟨⟨w.clock, w'.clock, queries⟩, rfl, rfl, hpass, hprompt, o, hpasses, rfl⟩

theorem timing_checks (group : String) (h : Host σ) :
    Run.Timing h (streamPass group) (Checks group h)
      (fun p => p.queries.map (Query.entry group)) Pass.begun Pass.ended :=
  ⟨fun hp => hp.ran, fun hp => hp.begun, fun hp => hp.ended, fun hp => hp.prompt⟩

namespace Checks

variable {p : Pass} {next : List String}

/-- The wait goes on behind a pass that leaves streams. -/
theorem again (hp : Checks group h p missing w (.ok (.again next)) w') :
    Passes missing p.queries (.ok next) ∧ next ≠ [] := by
  obtain ⟨left | e | _, hpasses, ho⟩ := hp.passes
  · rw [Outcome.map, judged] at ho
    split at ho <;> cases ho
    rename_i hsome
    exact ⟨hpasses, by simpa using hsome⟩
  · cases ho
  · cases ho

/-- The wait is over behind a pass that leaves none. -/
theorem done (hp : Checks group h p missing w (.ok (.done ())) w') :
    Passes missing p.queries (.ok []) := by
  obtain ⟨left | e | _, hpasses, ho⟩ := hp.passes
  · rw [Outcome.map, judged] at ho
    split at ho <;> cases ho
    rename_i hnone
    obtain rfl : left = [] := by simpa using hnone
    exact hpasses
  · cases ho
  · cases ho

theorem failed {e : Failure} (hp : Checks group h p missing w (.failed e) w') :
    Passes missing p.queries (.failed e) := by
  obtain ⟨left | e' | _, hpasses, ho⟩ := hp.passes <;> cases ho
  exact hpasses

theorem not_unfinished (hp : Checks group h p missing w .unfinished w') : False := by
  obtain ⟨left | e' | _, hpasses, ho⟩ := hp.passes <;> cases ho
  exact hpasses.ne_unfinished rfl

end Checks

/-! ### The requests of a wait -/

/-- What the requests of a wait mean for its end: every stream was shown, or some are missing, or
the last refusal is fatal, and its stream was not shown. -/
inductive Ends (streams : List String) (asked : List Query) :
    Outcome (Attempt Unit (List String)) → Prop
  | shown : Unseen streams asked [] → (∀ q ∈ asked, ∀ e, ¬ q.Fatal e) →
      Ends streams asked (.ok (.done ()))
  | missing {missing : List String} : Unseen streams asked missing → missing ≠ [] →
      (∀ q ∈ asked, ∀ e, ¬ q.Fatal e) → Ends streams asked (.ok (.again missing))
  | fatal {front : List Query} {q : Query} {e : Failure} : asked = front ++ [q] →
      (∀ q' ∈ front, ∀ e, ¬ q'.Fatal e) → q.Fatal e → q.stream ∈ streams →
      (∀ q' ∈ asked, q'.stream = q.stream → ¬ q'.Shows) → Ends streams asked (.failed e)

variable {interval deadline : Nat} {past : List Query} {passes : List Pass}
  {o : Outcome (Attempt Unit (List String))}

/-- Every pass asks for what is unseen behind those in front of it. -/
theorem unseen_of_tries
    (htries : Run.Tries interval deadline (Checks group h) missing w passes o w')
    (hunseen : Unseen streams past missing) {before after : List Pass} {p : Pass}
    (hsplit : passes = before ++ p :: after) :
    ∃ unseen left, Unseen streams (past ++ asked before) unseen ∧
      Passes unseen p.queries left := by
  induction htries generalizing past before with
  | late _ => simp at hsplit
  | last _ hp _ =>
      obtain ⟨left, hpasses, -⟩ := hp.passes
      cases before with
      | nil =>
          cases hsplit
          exact ⟨_, left, by simpa using hunseen, hpasses⟩
      | cons p' before => simp at hsplit
  | again _ hp _ ih =>
      obtain ⟨hpasses, -⟩ := hp.again
      cases before with
      | nil =>
          cases hsplit
          exact ⟨_, _, by simpa using hunseen, hpasses⟩
      | cons p' before =>
          obtain ⟨rfl, hbehind⟩ := List.cons.inj hsplit
          obtain ⟨unseen, left, hrest, hp'⟩ := ih (hunseen.step hpasses) hbehind
          rw [List.append_assoc] at hrest
          exact ⟨unseen, left, by simpa using hrest, hp'⟩

/-- The wait ends as its requests say. -/
theorem ends_of_tries
    (htries : Run.Tries interval deadline (Checks group h) missing w passes o w')
    (hunseen : Unseen streams past missing) (hmild : ∀ q ∈ past, ∀ e, ¬ q.Fatal e)
    (hdue : w.clock < deadline ∨ missing ≠ []) : Ends streams (past ++ asked passes) o := by
  -- the induction starts anew behind each pass, so it carries the requests in front of it
  induction htries generalizing past with
  | late hlate =>
      have hsome := hdue.resolve_left (Nat.not_lt.2 hlate)
      rw [asked_nil, List.append_nil]
      exact .missing hunseen hsome hmild
  | @last p missing w w' o _ hp hends =>
      rw [asked_cons, asked_nil, List.append_nil]
      rcases o with (⟨⟨⟩⟩ | next) | e | _
      · exact .shown (hunseen.step hp.done) (List.forall_mem_append.2 ⟨hmild, hp.done.whole.2⟩)
      · exact absurd rfl (hends next)
      · obtain ⟨front, q, hqueries, hq, hfront⟩ := hp.failed.cut
        have hcut := hp.failed
        rw [hqueries] at hcut ⊢
        obtain ⟨hstream, hnone⟩ := hunseen.of_cut hcut hq
        exact .fatal (List.append_assoc _ _ _).symm (List.forall_mem_append.2 ⟨hmild, hfront⟩) hq
          hstream hnone
      · exact hp.not_unfinished.elim
  | again _ hp _ ih =>
      obtain ⟨hpasses, hsome⟩ := hp.again
      rw [asked_cons, ← List.append_assoc]
      exact ih (hunseen.step hpasses) (List.forall_mem_append.2 ⟨hmild, hpasses.whole.2⟩)
        (.inr hsome)

namespace Ends

variable {queries : List Query} {late : List String → Failure}

/-- A wait returns exactly if every stream was shown. -/
theorem ok_iff (hends : Ends streams queries o) :
    o.settled late = .ok () ↔ ∀ s ∈ streams, ∃ q ∈ queries, q.stream = s ∧ q.Shows := by
  cases hends with
  | shown hunseen _ =>
      refine ⟨fun _ s hs => ?_, fun _ => rfl⟩
      by_contra hnone
      have hmem := (hunseen.mem_iff s).2
        ⟨hs, fun q hq hsame hshows => hnone ⟨q, hq, hsame, hshows⟩⟩
      cases hmem
  | @missing missing hunseen hsome _ =>
      refine ⟨nofun, fun hall => ?_⟩
      obtain ⟨s, hs⟩ := List.exists_mem_of_ne_nil missing hsome
      obtain ⟨hstream, hnone⟩ := (hunseen.mem_iff s).1 hs
      obtain ⟨q, hq, hsame, hshows⟩ := hall s hstream
      exact absurd hshows (hnone q hq hsame)
  | fatal _ _ _ hstream hnone =>
      refine ⟨nofun, fun hall => ?_⟩
      obtain ⟨q', hq', hsame, hshows⟩ := hall _ hstream
      exact absurd hshows (hnone q' hq' hsame)

/-- A fatal refusal is the last answer, and what the passes end with. -/
theorem of_fatal {before after : List Query} {q : Query} {e : Failure}
    (hends : Ends streams queries o) (hsplit : queries = before ++ q :: after) (hq : q.Fatal e) :
    after = [] ∧ o = .failed e := by
  have hmem : q ∈ queries := by simp [hsplit]
  cases hends with
  | shown _ hmild => exact absurd hq (hmild q hmem e)
  | missing _ _ hmild => exact absurd hq (hmild q hmem e)
  | @fatal front last e' hlast hfront hfatal _ _ =>
      rcases split_last (hlast.symm.trans hsplit) with ⟨-, rfl, rfl⟩ | ⟨back, rfl, -⟩
      · cases hfatal.1.symm.trans hq.1
        exact ⟨rfl, rfl⟩
      · exact absurd hq (hfront q (by simp) e)

/-- Without a fatal refusal, a wait that does not return has streams missing. -/
theorem of_mild (hends : Ends streams queries o) (hmild : ∀ q ∈ queries, ∀ e, ¬ q.Fatal e)
    (hfailed : o.settled late ≠ .ok ()) :
    ∃ missing, Unseen streams queries missing ∧ o = .ok (.again missing) := by
  cases hends with
  | shown => exact absurd rfl hfailed
  | missing hunseen _ _ => exact ⟨_, hunseen, rfl⟩
  | fatal hlast _ hfatal _ _ => exact absurd hfatal (hmild _ (by simp [hlast]) _)

end Ends

/-! ### The wait -/

/-- **The wait asks for unseen streams only, and returns exactly if every stream was shown.**  It
consists of passes, at least one, the first of them at once and each other one two seconds behind
the end of the one in front of it, and all of them in the first five minutes; a pass takes as long
as its requests.  A pass asks for the streams that no answer in front of it has shown: each of them
once, in the order of their bytes, and all of them unless a refusal is fatal.  A fatal refusal is
the last answer, and the wait fails with it at once.  Without one, the wait returns behind the pass
at which every stream has been shown, or the next pass would be due behind five minutes or more, and
it fails with the streams that no answer has shown, in the order of their bytes, each of them once.
For no streams nothing is asked.  Where the host lists names in order by how they start, a stream is
shown exactly if it is there when it is asked for. -/
theorem awaitStreams_exact (group : String) (streams : List String) (h : Host σ) (w : World σ) :
    ∃ (passes : List Pass) (last : Pass) (o : Outcome Unit) (w' : World σ),
      awaitStreams group streams h w = (o, w') ∧ passes.getLast? = some last ∧
      w'.since w = (asked passes).map (Query.entry group) ∧
      (∀ p ∈ passes, w.clock ≤ p.begun ∧ p.begun < w.clock + 300000) ∧
      (∀ p ∈ passes.head?, p.begun = w.clock) ∧
      (passes.IsChain fun p p' => p'.begun = p.ended + 2000) ∧
      (∀ before p after, passes = before ++ p :: after →
        Spans h w ((asked before).map (Query.entry group)) (p.queries.map (Query.entry group))
          p.begun p.ended) ∧
      (∀ before p after, passes = before ++ p :: after → ∃ unseen,
        Unseen streams (asked before) unseen ∧ p.queries.map (·.stream) <+: unseen ∧
        ((∀ q ∈ p.queries, ∀ e, ¬ q.Fatal e) → p.queries.map (·.stream) = unseen)) ∧
      (∀ before q after e, asked passes = before ++ q :: after → q.Fatal e →
        after = [] ∧ o = .failed e ∧ w'.clock = last.ended) ∧
      (o = .ok () ↔ ∀ s ∈ streams, ∃ q ∈ asked passes, q.stream = s ∧ q.Shows) ∧
      (o = .ok () → w'.clock = last.ended) ∧
      ((∀ q ∈ asked passes, ∀ e, ¬ q.Fatal e) → o ≠ .ok () → ∃ missing,
        Unseen streams (asked passes) missing ∧ w'.clock = last.ended + 2000 ∧
        w.clock + 300000 ≤ w'.clock ∧
        o = .failed (.logStreamsTimeout group missing (w'.clock - w.clock))) ∧
      (streams = [] → asked passes = [] ∧ o = .ok ()) ∧
      ∀ live, ListsByPrefix h group live → ∀ before q after,
        asked passes = before ++ q :: after →
        ∃ v, Path h w (before.map (Query.entry group)) v ∧
          (q.Shows ↔ q.stream ∈ live v.state) := by
  have htiming := timing_checks group h
  obtain ⟨passes, seen, w', hpoll, htries⟩ :=
    Run.poll_tries (s := .withTimeout streamTimeout) (by decide) htiming.seeing
      (exists_checks group h) (Text.sortedSet streams) w
  have hlimit : (Schedule.withTimeout streamTimeout).timeout = 300000 := rfl
  have hinterval : (Schedule.withTimeout streamTimeout).interval = 2000 := rfl
  rw [hlimit, hinterval] at htries
  have hrun : awaitStreams group streams h w =
      (seen.settled (.logStreamsTimeout group · (w'.clock - w.clock)), w') :=
    Run.poll_settled (.logStreamsTimeout group) (fun _ => rfl) (fun _ _ => rfl) hpoll
  have hpath : Path h w ((asked passes).map (Query.entry group)) w' := by
    rw [asked, List.map_flatMap]
    exact htries.path htiming
  obtain ⟨hfirst, hchain⟩ := htries.spaced htiming
  have hspans : ∀ before p after, passes = before ++ p :: after →
      Spans h w ((asked before).map (Query.entry group)) (p.queries.map (Query.entry group))
        p.begun p.ended := by
    intro before p after hsplit
    rw [asked, List.map_flatMap]
    exact htries.spans htiming hsplit
  have hbegin := unseen_sortedSet streams
  have hends : Ends streams (asked passes) seen :=
    ends_of_tries htries hbegin (by simp) (.inl (by omega))
  have hunseen : ∀ before p after, passes = before ++ p :: after → ∃ unseen left,
      Unseen streams (asked before) unseen ∧ Passes unseen p.queries left :=
    fun before p after hsplit => unseen_of_tries htries hbegin hsplit
  -- the last pass, and whether another one is due behind it
  obtain ⟨front, last, rfl, ⟨state, u, u', hlast, hclock⟩, -⟩ := htries.exists_last (by omega)
  have hover : (∀ missing, seen ≠ .ok (.again missing)) → w'.clock = last.ended := by
    intro hnot
    rcases hclock with ⟨⟨missing, hagain⟩, -⟩ | ⟨-, rfl⟩
    · exact absurd hagain (hnot missing)
    · exact hlast.ended.symm
  refine ⟨front ++ [last], last, _, w', hrun, by simp, hpath.since_eq, htries.early htiming,
    hfirst, hchain, hspans, fun before p after hsplit => ?_, fun before q after e hsplit hq => ?_,
    hends.ok_iff, fun hok => hover ?_, fun hmild hfailed => ?_, fun hnone => ?_,
    fun live hlists before q after => hlists.exists_shows_iff hpath⟩
  · obtain ⟨unseen, left, hbefore, hpasses⟩ := hunseen before p after hsplit
    exact ⟨unseen, hbefore, hpasses.asked, hpasses.asked_all⟩
  · obtain ⟨rfl, rfl⟩ := hends.of_fatal hsplit hq
    exact ⟨rfl, rfl, hover nofun⟩
  · rintro missing rfl
    cases hok
  · obtain ⟨missing, hmissing, rfl⟩ := hends.of_mild hmild hfailed
    refine ⟨missing, hmissing, ?_, htries.late_of_again, rfl⟩
    rcases hclock with ⟨-, rfl⟩ | ⟨hnot, -⟩
    · rw [hlast.ended]
      rfl
    · exact absurd rfl (hnot missing)
  · subst hnone
    refine ⟨List.flatMap_eq_nil_iff.2 fun p hp => ?_, hends.ok_iff.2 (by simp)⟩
    obtain ⟨before, after, hsplit⟩ := List.append_of_mem hp
    obtain ⟨unseen, left, hbefore, hpasses⟩ := hunseen before p after hsplit
    have hempty : unseen = [] :=
      List.eq_nil_iff_forall_not_mem.2 fun s hs => nomatch ((hbefore.mem_iff s).1 hs).1
    exact List.map_eq_nil_iff.1 (List.prefix_nil.1 (hempty ▸ hpasses.asked))

/-- The names in a group: two that extend a third one, which comes later. -/
def laterNames (n : Nat) : List String :=
  if n < 2 then ["web/1/a", "web/10"] else ["web/1", "web/1/a", "web/10"]

/-- A host that lists these names in order by how they start, and counts its requests. -/
def growingHost : Host Nat where
  rounds := 1
  answer request n := match request with
    | .describeLogStreams _ start limit =>
      ⟨.ok (((laterNames n).filter fun name => start.toList.isPrefixOf name.toList).take
        limit.toNat), 40, n + 1⟩
    | _ => ⟨.error (.ecs "out of reach"), 0, n⟩

/-- A stream that comes later is not taken for the ones that extend its name. -/
theorem awaitStreams_exact_growing : ListsByPrefix growingHost "logs" laterNames ∧
    ∃ w', awaitStreams "logs" ["web/1", "web/1"] growingHost ⟨0, 0, #[]⟩ = (.ok (), w') ∧
      ∃ (before : List Query) (v : World Nat),
        Path growingHost ⟨0, 0, #[]⟩ (before.map (Query.entry "logs")) v ∧
        2 ≤ v.state := by
  have hlists : ListsByPrefix growingHost "logs" laterNames := by
    refine ⟨fun n => ?_, fun _ _ _ => rfl⟩
    rw [laterNames]
    split <;> decide
  have hreturns : (awaitStreams "logs" ["web/1", "web/1"] growingHost ⟨0, 0, #[]⟩).1.value? =
      some () := by
    decide +kernel
  obtain ⟨passes, last, o, w', hrun, -, -, -, -, -, -, -, -, hok, -, -, -, hexact⟩ :=
    awaitStreams_exact "logs" ["web/1", "web/1"] growingHost ⟨0, 0, #[]⟩
  obtain rfl : o = .ok () := congrArg Prod.fst (hrun.symm.trans (Outcome.eq_ok hreturns))
  refine ⟨hlists, w', hrun, ?_⟩
  obtain ⟨q, hq, hstream, hshows⟩ := hok.1 rfl "web/1" (by simp)
  obtain ⟨before, after, hsplit⟩ := List.append_of_mem hq
  obtain ⟨v, hpath, hthere⟩ := hexact laterNames hlists before q after hsplit
  have hpresent := hthere.1 hshows
  refine ⟨before, v, hpath, ?_⟩
  by_contra hfew
  rw [hstream, laterNames, if_pos (by omega)] at hpresent
  revert hpresent
  decide

end Cutover.Service
