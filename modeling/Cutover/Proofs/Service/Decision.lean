/-
**The first look that decides is the last.**

A deployment ends with the first look at its rollout that decides it, in whatever way, or when time
is up; nothing is asked behind that look, and as long as none decides there is another one every two
seconds.  What decides is that the logs cannot be read, or what the cluster answers of the one
deployment that the service was moved to, whatever it answers of others.

Main definitions:

* `Cutover.Service.Decisive`, `Cutover.Service.Continues` — the looks that decide and those that do
  not;
* `Cutover.Service.Follows` — a rollout that is followed up to the first look that decides;
* `Cutover.Service.TakesLines` — an output that does not fail.

Main results:

* `Cutover.Service.Continues.not_decisive` — no look is both;
* `Cutover.Service.monitorRollout_follows` — every rollout is followed so;
* `Cutover.Service.deploy_decided_first` — **the first look that decides is the last**.
-/
import Cutover.Proofs.Service.Launch

set_option autoImplicit false

namespace Cutover.Service

variable {σ : Type} {files : Files} {baseDir : String} {target : Target}
  {given fromEnvironment : Option String} {r : Rollout} {h : Host σ} {w w₁ w' : World σ}
  {rounds : Nat} {l : Look} {next : Int} {o : Outcome Unit} {seen : Outcome (Attempt Unit Int)}

/-- A look that decides a rollout, and how: its logs cannot be read, or all pages that may be read
are read and there are still more, or they have been read and written and the answer of the cluster
decides. -/
inductive Decisive (r : Rollout) (rounds : Nat) (l : Look) : Outcome Unit → Prop
  | unread {e : Failure} : r.streams ≠ [] →
      Reads r.group r.streams l.start rounds l.tailed (.failed e) → l.told = none →
      Decisive r rounds l (.failed e)
  | endless : r.streams ≠ [] →
      Reads r.group r.streams l.start rounds l.tailed .unfinished → l.told = none →
      Decisive r rounds l .unfinished
  | told {next : Int} {answer : Except Failure (List Deployment)} {o : Outcome Unit} :
      Tails r.group r.streams l.start rounds l.tailed l.written (.ok next) →
      l.told = some answer → Decides r.service r.deployment answer o → Decisive r rounds l o

/-- A look that does not decide a rollout: its logs have been read and written, and the cluster has
the deployment in a state that is neither of the two last ones. -/
def Continues (r : Rollout) (rounds : Nat) (l : Look) : Prop :=
  (∃ next, Tails r.group r.streams l.start rounds l.tailed l.written (.ok next)) ∧
    ∃ found, l.told = some (.ok found) ∧ GoesOn r.deployment found

/-- No look both decides and does not. -/
theorem Continues.not_decisive (hl : Continues r rounds l) (o : Outcome Unit) :
    ¬ Decisive r rounds l o := by
  obtain ⟨-, found, htold, hgoes⟩ := hl
  intro hdecisive
  cases hdecisive with
  | unread _ _ hnone | endless _ _ hnone =>
      rw [htold] at hnone
      cases hnone
  | told _ hanswer hdecides =>
      rw [htold] at hanswer
      cases hanswer
      exact hgoes.not_decides hdecides

/-- A look behind which there is another one does not decide. -/
theorem Sees.continues (hsees : Sees r rounds l (.ok (.again next))) : Continues r rounds l := by
  generalize ho : Outcome.ok (Attempt.again next : Attempt Unit Int) = seen at hsees
  cases hsees with
  | unread | endless => cases ho
  | @decided _ _ o _ _ _ => rcases o with x | e | _ <;> cases ho
  | goesOn htails htold hgoes => exact ⟨⟨_, htails⟩, _, htold, hgoes⟩

/-- A look that decides because its logs do not end has asked for all pages that may be read. -/
theorem Decisive.length_of_unfinished (hdecisive : Decisive r rounds l .unfinished) :
    r.streams ≠ [] ∧ l.tailed.length = rounds := by
  generalize ho : (.unfinished : Outcome Unit) = o at hdecisive
  cases hdecisive with
  | unread => cases ho
  | endless hstreams hreads _ => exact ⟨hstreams, hreads.length_of_unfinished⟩
  | told _ _ hdecides =>
      subst ho
      cases hdecides

/-! ### An output that does not fail -/

/-- The output of a host takes every line. -/
structure TakesLines (h : Host σ) : Prop where
  line : ∀ text s, (h.answer (.writeLine text) s).result = .ok ()
  flush : ∀ s, (h.answer .flushOutput s).result = .ok ()

/-- Where the output takes every line, a look at the logs fails only if they cannot be read. -/
theorem Tails.unread_of_failed {group : String} {streams : List String} {start : Int}
    {t : List Entry} {written : List LogEvent} {e : Failure} (htakes : TakesLines h)
    (hanswered : ∀ request x, Entry.call request x ∈ t → ∃ s, (h.answer request s).result = x)
    (htails : Tails group streams start rounds t written (.failed e)) :
    streams ≠ [] ∧ Reads group streams start rounds t (.failed e) := by
  cases htails with
  | unread hstreams hreads => exact ⟨hstreams, hreads⟩
  | @unwritten _ _ _ _ line _ _ _ _ =>
      obtain ⟨s, hs⟩ := hanswered (.writeLine (formatEvent line)) (.error e) (by simp)
      rw [htakes.line] at hs
      cases hs
  | unflushed _ _ _ =>
      obtain ⟨s, hs⟩ := hanswered .flushOutput (.error e) (by simp)
      rw [htakes.flush] at hs
      cases hs

theorem Tails.unread_of_unfinished {group : String} {streams : List String} {start : Int}
    {t : List Entry} {written : List LogEvent}
    (htails : Tails group streams start rounds t written .unfinished) :
    streams ≠ [] ∧ Reads group streams start rounds t .unfinished := by
  cases htails with
  | endless hstreams hreads => exact ⟨hstreams, hreads⟩

/-- Where the output takes every line, a look behind which there is no other one decides. -/
theorem Sees.decisive {late : Int → Failure} (htakes : TakesLines h)
    (hanswered : ∀ request x, Entry.call request x ∈ l.tailed →
      ∃ s, (h.answer request s).result = x)
    (hends : ∀ next, seen ≠ .ok (.again next)) (hsees : Sees r rounds l seen) :
    Decisive r rounds l (seen.settled late) := by
  cases hsees with
  | unread htails htold =>
      obtain ⟨hstreams, hreads⟩ := htails.unread_of_failed htakes hanswered
      exact .unread hstreams hreads htold
  | endless htails htold =>
      obtain ⟨hstreams, hreads⟩ := htails.unread_of_unfinished
      exact .endless hstreams hreads htold
  | decided htails htold hdecides =>
      rw [Outcome.settled_done]
      exact .told htails htold hdecides
  | goesOn _ _ _ => exact absurd rfl (hends _)

/-- A rollout that is decided well was decided by an answer that has the deployment completed. -/
theorem Decisive.completed (hdecisive : Decisive r rounds l (.ok ())) :
    ∃ found d, l.told = some (.ok found) ∧
      found.find? (·.id == r.deployment) = some d ∧ d.rolloutState = some "COMPLETED" := by
  generalize ho : Outcome.ok () = o at hdecisive
  cases hdecisive with
  | unread | endless => cases ho
  | told _ htold hdecides =>
      subst ho
      cases hdecides with
      | completed hfind hstate => exact ⟨_, _, htold, hfind, hstate⟩

/-! ### Whole rollouts -/

/-- A rollout that is followed from a world on, by looks in front of the last one and by the last
one, to its end. -/
structure Follows (r : Rollout) (h : Host σ) (w : World σ) (front : List Look) (last : Look)
    (o : Outcome Unit) (w' : World σ) : Prop where
  /-- There is nothing but the looks, and a line that says that the rollout has come to a good
  end. -/
  journal : w'.since w = (front ++ [last]).flatMap (Look.entries r) ++
    (concluding r.service o).map .report
  /-- The first look is taken at once. -/
  first : ∀ l ∈ (front ++ [last]).head?, l.begun = w.clock
  /-- Each further look is taken two seconds behind the end of the one in front of it. -/
  spaced : (front ++ [last]).IsChain fun l l' => l'.begun = l.ended + 2000
  /-- Every look is begun in less than ten minutes. -/
  early : ∀ l ∈ front ++ [last], w.clock ≤ l.begun ∧ l.begun < w.clock + 600000
  /-- A look takes as long as its requests, which are made where those in front of it have led. -/
  spans : ∀ before l after, front ++ [last] = before ++ l :: after →
    Spans h w (before.flatMap (Look.entries r)) (l.entries r) l.begun l.ended
  /-- No look decides behind which there is another one. -/
  undecided : ∀ l ∈ front, Continues r h.rounds l ∧ ∀ o, ¬ Decisive r h.rounds l o
  /-- The last look decides, and the rollout ends with it at once; or it does not, and the next look
  would be due behind ten minutes or more. -/
  concluded : (Decisive r h.rounds last o ∧ w'.clock = last.ended) ∨
    ((Continues r h.rounds last ∧ ∀ o, ¬ Decisive r h.rounds last o) ∧
      w'.clock = last.ended + 2000 ∧ 600000 ≤ w'.clock - w.clock ∧
      o = .failed (.deploymentTimeout r.service (w'.clock - w.clock)))
  /-- The rollout is not finished only if the last look has asked for all pages that may be read. -/
  finished : o = .unfinished → r.streams ≠ [] ∧ last.tailed.length = h.rounds

/-- Where the output takes every line, a rollout is followed up to the first look that decides. -/
theorem monitorRollout_follows (htakes : TakesLines h)
    (hrun : monitorRollout r.cluster r.service r.deployment r.group r.streams h w = (o, w')) :
    ∃ front last, Follows r h w front last o w' := by
  obtain ⟨looks, seen, w₁, o', w₂, hrun', hwatches, ho, hlines, hclock⟩ :=
    monitorRollout_watches r h w
  obtain ⟨rfl, rfl⟩ := Prod.mk.inj (hrun'.symm.trans hrun)
  have htiming := timing_observes r h
  have hjournal := ((hwatches.path htiming).trans hlines).since_eq
  have hearly := hwatches.early htiming
  obtain ⟨hfirst, hspaced⟩ := hwatches.spaced htiming
  obtain ⟨front, last, rfl, ⟨moment, u, u', hlast, hends⟩, hfront⟩ :=
    hwatches.exists_last (by omega)
  have hspans : ∀ before l after, front ++ [last] = before ++ l :: after →
      Spans h w (before.flatMap (Look.entries r)) (l.entries r) l.begun l.ended :=
    fun _ _ _ => hwatches.spans htiming
  have hundecided : ∀ l ∈ front, Continues r h.rounds l ∧ ∀ o, ¬ Decisive r h.rounds l o := by
    intro l hl
    obtain ⟨moment, u, next, u', hlook⟩ := hfront l hl
    exact ⟨hlook.sees.continues, hlook.sees.continues.not_decisive⟩
  rcases hends with ⟨⟨next, rfl⟩, rfl⟩ | ⟨hends, rfl⟩
  · have hlate : w.clock + 600000 ≤ w₂.clock := by
      rw [hclock]
      exact hwatches.late_of_again
    have hended : w₂.clock = last.ended + 2000 := by
      rw [hclock, hlast.ended]
      rfl
    have htimeout : o' = .failed (.deploymentTimeout r.service (w₂.clock - w.clock)) := by
      rw [ho, hclock]
      rfl
    have hcontinues := hlast.sees.continues
    refine ⟨front, last, hjournal, hfirst, hspaced, hearly, hspans, hundecided,
      .inr ⟨⟨hcontinues, hcontinues.not_decisive⟩, hended, by omega, htimeout⟩, ?_⟩
    rw [htimeout]
    exact nofun
  · have hdecisive : Decisive r h.rounds last o' := by
      rw [ho]
      refine hlast.sees.decisive htakes (fun request x hx => ?_) hends
      exact hlast.prompt.path.answered (List.mem_append_left _ hx)
    refine ⟨front, last, hjournal, hfirst, hspaced, hearly, hspans, hundecided,
      .inl ⟨hdecisive, by rw [hclock, hlast.ended]⟩, ?_⟩
    rintro rfl
    exact hdecisive.length_of_unfinished

/-! ### Whole deployments -/

/-- **The first look that decides is the last.**  Behind the launch of a deployment its rollout is
followed by looks, at least one: the first at once, and each other one two seconds behind the end of
the one in front of it.  All of them begin in less than ten minutes, and none but the last decides.
If the last one decides, then the deployment ends at once as that does; if not, the next one would
be due behind ten minutes or more, and the deployment ends because time is up.  What the cluster
answers counts for the one deployment that the service was moved to, the first primary one in the
answer to the one request that has moved it; so a deployment succeeds only if the cluster has
answered that this one is completed. -/
theorem deploy_decided_first (htakes : TakesLines h)
    (hlaunch : launch files baseDir target given fromEnvironment h w = (.ok r, w₁))
    (hrun : deploy files baseDir target given fromEnvironment h w = (o, w')) :
    (∃ before after definition deployments d,
      w₁.since w = before ++
        .call (.updateService r.cluster r.service definition) (.ok deployments) :: after ∧
      (∀ x ∈ before ++ after, movesService x = false) ∧
      deployments.find? Deployment.isPrimary = some d ∧ d.id = r.deployment) ∧
    (∃ front last, Follows r h w₁ front last o w') ∧
    (o = .ok () → ∃ found d,
      Entry.call (.describeServices r.cluster r.service) (.ok found) ∈ w'.since w₁ ∧
      found.find? (·.id == r.deployment) = some d ∧ d.rolloutState = some "COMPLETED") := by
  have hdeploy : deploy files baseDir target given fromEnvironment h w =
      monitorRollout r.cluster r.service r.deployment r.group r.streams h w₁ := by
    rw [deploy_eq_launch]
    exact Run.bind_ok hlaunch
  obtain ⟨front, last, hfollows⟩ := monitorRollout_follows htakes (hdeploy.symm.trans hrun)
  refine ⟨?_, ⟨front, last, hfollows⟩, fun ho => ?_⟩
  · obtain ⟨before, after, definition, deployments, d, hpath, haside, hprimary, hd⟩ :=
      launch_moves hlaunch
    exact ⟨before, after, definition, deployments, d, hpath.since_eq, haside, hprimary, hd⟩
  · subst ho
    rcases hfollows.concluded with ⟨hlast, -⟩ | ⟨-, -, -, htimeout⟩
    · obtain ⟨found, d, htold, hfind, hstate⟩ := hlast.completed
      refine ⟨found, d, ?_, hfind, hstate⟩
      rw [hfollows.journal]
      refine List.mem_append_left _ (List.mem_flatMap.2 ⟨last, by simp, ?_⟩)
      rw [Look.entries, htold]
      exact List.mem_append_right _ (List.mem_singleton.2 rfl)
    · cases htimeout

/-- The files of one service. -/
def smallFiles : Files := .ofList [("terraform/services/dev/web/service-config.yml",
  some "name: web\ntype: Backend Service\ncount: 1\n".toUTF8)]

/-- A host that has an older deployment of the service completed, and fails the newer one at the
second look. -/
def failingHost : Host Nat where
  rounds := 5
  answer request n := match request with
    | .getParameter name => ⟨.ok ⟨name, "\x7b\x7d"⟩, 1, n⟩
    | .getParametersByPath _ _ _ =>
      ⟨.ok ⟨if n = 0 then [⟨"dev", "\x7b\"name\":\"dev\"\x7d"⟩] else [], none⟩, 1, n + 1⟩
    | .getObject _ _ =>
      ⟨.ok "[\x7b\"name\":\"web\",\"image\":\"web:$\x7bIMAGE_TAG\x7d\"\x7d]".toUTF8, 1, n⟩
    | .registerTaskDefinition _ => ⟨.ok "web:2", 1, n⟩
    | .updateService _ _ _ =>
      ⟨.ok [⟨"old", "ACTIVE", none, none⟩, ⟨"new", "PRIMARY", none, none⟩], 1, n⟩
    | .listTasks _ _ _ => ⟨.ok ⟨["task/1"], none⟩, 1, n⟩
    | .describeTasks _ _ => ⟨.ok [⟨"task/1", [⟨"web", []⟩]⟩], 1, n⟩
    | .describeLogStreams _ stream _ => ⟨.ok [stream], 1, n⟩
    | .filterLogEvents _ _ start _ =>
      ⟨.ok ⟨if start = 0 then [⟨"platform/web/1", 40, "started"⟩] else [], none⟩, 1, n⟩
    | .describeServices _ _ =>
      ⟨.ok [⟨"old", "ACTIVE", some "COMPLETED", none⟩,
        ⟨"new", "PRIMARY", some (if n = 2 then "IN_PROGRESS" else "FAILED"), none⟩], 1, n + 1⟩
    | .writeLine _ => ⟨.ok (), 1, n⟩
    | .flushOutput => ⟨.ok (), 1, n⟩
    | _ => ⟨.error (.ecs "out of reach"), 0, n⟩

/-- The failing host fails a deployment although it has another one completed. -/
theorem deploy_decided_first_small : ∃ (r : Rollout) (w₁ w' : World Nat),
    TakesLines failingHost ∧
    launch smallFiles "." ⟨"app", "dev", "web"⟩ (some "v1") none failingHost ⟨0, 0, #[]⟩ =
      (.ok r, w₁) ∧
    deploy smallFiles "." ⟨"app", "dev", "web"⟩ (some "v1") none failingHost ⟨0, 0, #[]⟩ =
      (.failed (.deploymentFailed "app-dev-web" "unknown reason"), w') ∧
    r.deployment = "new" ∧ ∃ (front : List Look) (last : Look),
      (∀ l ∈ front, Continues r 5 l) ∧ w'.clock = last.ended ∧
      Decisive r 5 last (.failed (.deploymentFailed "app-dev-web" "unknown reason")) := by
  have htakes : TakesLines failingHost := ⟨fun _ _ => rfl, fun _ => rfl⟩
  have hlaunched : (launch smallFiles "." ⟨"app", "dev", "web"⟩ (some "v1") none failingHost
      ⟨0, 0, #[]⟩).1.value? = some ⟨"app-dev-cluster", "app-dev-web", "new",
        "/platform/ecs/service/app/dev/web", ["platform/web/1"]⟩ := by
    decide +kernel
  have hfailed : (deploy smallFiles "." ⟨"app", "dev", "web"⟩ (some "v1") none failingHost
      ⟨0, 0, #[]⟩).1.failure? = some (.deploymentFailed "app-dev-web" "unknown reason") := by
    decide +kernel
  have hlaunch := Outcome.eq_ok hlaunched
  have hrun := Outcome.eq_failed hfailed
  obtain ⟨-, ⟨front, last, hfollows⟩, -⟩ := deploy_decided_first htakes hlaunch hrun
  refine ⟨_, _, _, htakes, hlaunch, hrun, rfl, front, last, ?_⟩
  rcases hfollows.concluded with ⟨hlast, hclock⟩ | ⟨-, -, -, htimeout⟩
  · exact ⟨fun l hl => (hfollows.undecided l hl).1, hclock, hlast⟩
  · cases htimeout

end Cutover.Service
