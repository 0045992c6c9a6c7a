/-
**The wait for tasks.**

A deployment lists the running tasks again and again until there are as many as are expected.  A
listing has several pages and takes its time, and it counts only as a whole: what the wait returns
is everything that one listing has listed, and what it complains of is how much the last one has.
A listing that is begun in time counts, however long it takes.

Main definitions:

* `Cutover.Service.TaskListing` — one listing in the course of the wait;
* `Cutover.Service.Counts` — how an attempt of the wait is such a listing.

Main results:

* `Cutover.Service.exists_counts` — every attempt of the wait is one listing;
* `Cutover.Service.awaitRunningTasks_converges` — **the wait returns the first listing that is long
  enough, or fails with the length of the last**.
-/
import Cutover.Proofs.Run.Attempts
import Cutover.Proofs.Run.Pages
import Cutover.Service.Deploy

set_option autoImplicit false

namespace Cutover.Service

variable {σ : Type} {cluster deployment : String} {expected : Nat} {h : Host σ}

/-- The request for a page of the running tasks of a deployment, with its answer. -/
def asksForTasks (cluster deployment : String) (token : Option String)
    (answer : Except Failure (Page String)) : Entry :=
  .call (.listTasks cluster (.runningForDeployment deployment) token) answer

/-- The tasks of a deployment are asked for page by page. -/
theorem fetches_tasks (cluster deployment : String) :
    Run.Fetches (asksForTasks cluster deployment) (fun token =>
      (Run.call (.listTasks cluster (.runningForDeployment deployment) token) : Run σ _)) :=
  fun _ h w => ⟨_, _, Run.call_answered _ h w, Prompt.single h w _⟩

/-! ### One listing -/

/-- One listing in the course of the wait: when it begins and ends, what it adds to the journal, and
what it comes to. -/
structure TaskListing where
  begun : Nat
  ended : Nat
  asked : List Entry
  listed : Outcome (List String)

/-- What a whole listing means for the wait. -/
def counted (expected : Nat) (arns : List String) : Attempt (List String) Nat :=
  if expected ≤ arns.length then .done arns else .again arns.length

/-- An attempt of the wait. -/
def countPass (cluster deployment : String) (expected : Nat) (_ : Nat) :
    Run σ (Attempt (List String) Nat) := do
  let arns ← taskArns cluster (.runningForDeployment deployment)
  return counted expected arns

/-- An attempt of the wait is a listing: it asks for the pages of that and nothing else, without a
wait, and comes to what the listing means, if this is not cut short. -/
structure Counts (cluster deployment : String) (expected : Nat) (h : Host σ) (l : TaskListing)
    (found : Nat) (w : World σ) (o : Outcome (Attempt (List String) Nat)) (w' : World σ) :
    Prop where
  begun : l.begun = w.clock
  ended : l.ended = w'.clock
  ran : countPass cluster deployment expected found h w = (o, w')
  prompt : Prompt h w l.asked w'
  lists : Run.Lists (asksForTasks cluster deployment) h.rounds none l.asked l.listed
  counted : o = l.listed.map (counted expected)

/-- Every attempt of the wait is one listing. -/
theorem exists_counts (cluster deployment : String) (expected : Nat) (h : Host σ) (found : Nat)
    (w : World σ) :
    ∃ l, Counts cluster deployment expected h l found w
      (countPass cluster deployment expected found h w).1
      (countPass cluster deployment expected found h w).2 := by
  obtain ⟨t, o, w', hrun, hprompt, hlists⟩ :=
    Run.listAll_lists (fetches_tasks cluster deployment) h w
  have hpass : countPass cluster deployment expected found h w =
      (o.map (counted expected), w') :=
    Run.bind_pure_eq hrun _
  rw [hpass]
  exact ⟨⟨w.clock, w'.clock, t, o⟩, rfl, rfl, hpass, hprompt, hlists, rfl⟩

theorem timing_counts (cluster deployment : String) (expected : Nat) (h : Host σ) :
    Run.Timing h (countPass cluster deployment expected) (Counts cluster deployment expected h)
      TaskListing.asked TaskListing.begun TaskListing.ended :=
  ⟨fun hl => hl.ran, fun hl => hl.begun, fun hl => hl.ended, fun hl => hl.prompt⟩

namespace Counts

variable {l : TaskListing} {found : Nat} {w w' : World σ}
  {o : Outcome (Attempt (List String) Nat)}

/-- The wait goes on behind a whole listing that is too short, with its length. -/
theorem short {next : Nat}
    (hl : Counts cluster deployment expected h l found w (.ok (.again next)) w') :
    ∃ arns, l.listed = .ok arns ∧ arns.length < expected ∧ next = arns.length := by
  have hcounted := hl.counted
  rcases hlisted : l.listed with arns | e | _ <;> rw [hlisted] at hcounted
  · rw [Outcome.map, Service.counted] at hcounted
    split at hcounted
    · cases hcounted
    · cases hcounted
      exact ⟨arns, rfl, by omega, rfl⟩
  · cases hcounted
  · cases hcounted

/-- The wait ends behind a listing that is cut short or long enough, as that one does. -/
theorem settles (hl : Counts cluster deployment expected h l found w o w')
    (hends : ∀ next, o ≠ .ok (.again next)) :
    o = l.listed.map .done ∧ ∀ arns, l.listed = .ok arns → expected ≤ arns.length := by
  rcases hlisted : l.listed with arns | e | _
  · have hcounted := hl.counted
    rw [hlisted, Outcome.map, Service.counted] at hcounted
    split at hcounted
    · rename_i hlong
      exact ⟨hcounted, fun arns' harns => by cases harns; exact hlong⟩
    · exact absurd hcounted (hends _)
  · exact ⟨by rw [hl.counted, hlisted]; rfl, by simp⟩
  · exact ⟨by rw [hl.counted, hlisted]; rfl, by simp⟩

end Counts

/-! ### The wait -/

/-- The line that says which tasks are waited for. -/
def waitingLine (deployment : String) (expected : Nat) : ReportLine :=
  ⟨.info, "Waiting for " ++ toString expected ++ " RUNNING ECS task(s) for deployment " ++
    deployment, []⟩

/-- The wait goes as its poll does. -/
theorem awaitRunningTasks_eq {service : String} {w w' : World σ} {waited : Nat}
    {o : Outcome (Attempt (List String) Nat)}
    (hpoll : Run.poll (.withTimeout taskStartTimeout) 0 (countPass cluster deployment expected) h
      (Run.note w (.report (waitingLine deployment expected))) =
        (o.map (Attempt.polled waited), w')) :
    awaitRunningTasks cluster service deployment expected h w =
      (o.settled (.taskStartTimeout service cluster expected · waited), w') := by
  have hline (message : String) : Run.info message h w =
      (.ok (), Run.note w (.report ⟨.info, message, []⟩)) := rfl
  rw [awaitRunningTasks, Run.bind_ok (hline _)]
  exact Run.poll_settled (.taskStartTimeout service cluster expected) (fun _ => rfl)
    (fun _ _ => rfl) hpoll

/-- **The wait returns the first listing that is long enough, or fails with the length of the
last.**  It is a line that is reported and then listings of the tasks, at least one, each of them
page by page.  They begin in less than ten minutes, the first at once and each other one two seconds
behind the end of the one in front of it; a listing takes as long as its requests.  All but the last
are whole and too short.  If the last is not, the wait ends as that does, at once: with everything
that is listed, as many tasks as are expected or more, or with the failure of the page that has
failed.  If it is, the next one would be due behind ten minutes or more, and the wait fails with the
length of the last.  If no task is expected, there is one listing, and the wait ends as it does.
The wait is not finished only if the last listing has used up its rounds. -/
theorem awaitRunningTasks_converges (cluster service deployment : String) (expected : Nat)
    (h : Host σ) (w : World σ) :
    ∃ (front : List TaskListing) (last : TaskListing) (o : Outcome (List String)) (w' : World σ),
      awaitRunningTasks cluster service deployment expected h w = (o, w') ∧
      w'.since w = .report (waitingLine deployment expected) ::
        (front ++ [last]).flatMap TaskListing.asked ∧
      (∀ l ∈ front ++ [last],
        Run.Lists (asksForTasks cluster deployment) h.rounds none l.asked l.listed ∧
        w.clock ≤ l.begun ∧ l.begun < w.clock + 600000) ∧
      (∀ l ∈ (front ++ [last]).head?, l.begun = w.clock) ∧
      ((front ++ [last]).IsChain fun l l' => l'.begun = l.ended + 2000) ∧
      (∀ before l after, front ++ [last] = before ++ l :: after →
        Spans h w (.report (waitingLine deployment expected) ::
          before.flatMap TaskListing.asked) l.asked l.begun l.ended) ∧
      (∀ l ∈ front, ∃ arns, l.listed = .ok arns ∧ arns.length < expected) ∧
      ((o = last.listed ∧ (∀ arns, o = .ok arns → expected ≤ arns.length) ∧
          w'.clock = last.ended) ∨
        ∃ arns, last.listed = .ok arns ∧ arns.length < expected ∧
          w'.clock = last.ended + 2000 ∧ w.clock + 600000 ≤ w'.clock ∧
          o = .failed (.taskStartTimeout service cluster expected arns.length
            (w'.clock - w.clock))) ∧
      (expected = 0 → front = [] ∧ o = last.listed) ∧
      (o = .unfinished → last.asked.length = h.rounds) := by
  have htiming := timing_counts cluster deployment expected h
  let w₁ := Run.note w (.report (waitingLine deployment expected))
  obtain ⟨looks, seen, w', hpoll, htries⟩ :=
    Run.poll_tries (s := .withTimeout taskStartTimeout) (by decide) htiming.seeing
      (exists_counts cluster deployment expected h) 0 w₁
  have hlimit : w₁.clock + (Schedule.withTimeout taskStartTimeout).timeout =
    w.clock + 600000 := rfl
  have hinterval : (Schedule.withTimeout taskStartTimeout).interval = 2000 := rfl
  rw [hlimit, hinterval] at htries
  have hpath := htries.path htiming
  obtain ⟨hfirst, hchain⟩ := htries.spaced htiming
  have hearly : ∀ l ∈ looks,
      Run.Lists (asksForTasks cluster deployment) h.rounds none l.asked l.listed ∧
      w.clock ≤ l.begun ∧ l.begun < w.clock + 600000 := by
    intro l hl
    obtain ⟨found, u, o, u', hcounts⟩ := htries.seen l hl
    exact ⟨hcounts.lists, htries.early htiming l hl⟩
  have hline := Path.line h w (waitingLine deployment expected)
  have hspans : ∀ before l after, looks = before ++ l :: after →
      Spans h w (.report (waitingLine deployment expected) :: before.flatMap TaskListing.asked)
        l.asked l.begun l.ended := by
    intro before l after hsplit
    obtain ⟨u, u', hfront, hspan⟩ := htries.spans htiming hsplit
    exact ⟨u, u', hline.trans hfront, hspan⟩
  have htime : w₁.clock < w.clock + 600000 := Nat.lt_add_of_pos_right (by decide)
  obtain ⟨front, last, rfl, ⟨found, u, u', hlast, hends⟩, hfront⟩ := htries.exists_last htime
  have hshort : ∀ l ∈ front, ∃ arns, l.listed = .ok arns ∧ arns.length < expected := by
    intro l hl
    obtain ⟨found, u, next, u', hcounts⟩ := hfront l hl
    obtain ⟨arns, hlisted, hlength, -⟩ := hcounts.short
    exact ⟨arns, hlisted, hlength⟩
  have hall : expected = 0 → front = [] := by
    intro hnone
    refine List.eq_nil_iff_forall_not_mem.2 fun l hl => ?_
    obtain ⟨arns, -, hlength⟩ := hshort l hl
    omega
  refine ⟨front, last, _, w', awaitRunningTasks_eq hpoll, (hline.trans hpath).since_eq, hearly,
    hfirst, hchain, hspans, hshort, ?_⟩
  rcases hends with ⟨⟨next, rfl⟩, rfl⟩ | ⟨hends, rfl⟩
  · obtain ⟨arns, hlisted, hlength, rfl⟩ := hlast.short
    refine ⟨.inr ⟨arns, hlisted, hlength, ?_, htries.late_of_again, rfl⟩, ?_, nofun⟩
    · rw [hlast.ended]
      rfl
    · omega
  · obtain ⟨rfl, hlong⟩ := hlast.settles hends
    rw [Outcome.settled_done]
    refine ⟨.inl ⟨rfl, hlong, hlast.ended.symm⟩, fun hnone => ⟨hall hnone, rfl⟩, ?_⟩
    intro hendless
    have hlists := hlast.lists
    rw [hendless] at hlists
    exact hlists.length_of_unfinished

end Cutover.Service
