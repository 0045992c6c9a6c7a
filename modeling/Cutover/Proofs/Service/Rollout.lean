/-
**What is seen of a rollout.**

A rollout is followed by looks, one every two seconds, each at the logs first and then at what the
cluster tells of the deployment.  A look decides the rollout, or it goes on to the next one; what is
told decides it or not by rules that are written down here.  The looks of a rollout, with the time
at which each of them starts, are what its journal consists of.

Main definitions:

* `Cutover.Service.Rollout` — what is followed;
* `Cutover.Service.Decides`, `Cutover.Service.GoesOn` — what an answer of the cluster means;
* `Cutover.Service.Look` — a look, and `Cutover.Service.Sees` what it ends with;
* `Cutover.Service.Observes` — how an attempt to follow a rollout is a look;
* `Cutover.Service.Watches` — the looks of a rollout from a moment on.

Main results:

* `Cutover.Service.exists_observes` — every attempt to follow a rollout is a look;
* `Cutover.Service.monitorRollout_watches` — **every rollout is followed by looks**.
-/
import Cutover.Proofs.Run.Attempts
import Cutover.Proofs.Service.Tail

set_option autoImplicit false

namespace Cutover.Service

/-- What is followed of a rollout: the deployment of a service, and its logs. -/
structure Rollout where
  cluster : String
  service : String
  deployment : String
  group : String
  streams : List String
deriving DecidableEq

variable {σ : Type} {r : Rollout} {h : Host σ} {w w' : World σ} {start next : Int}

/-! ### What the cluster tells -/

/-- An answer of the cluster that decides a rollout, and how.  Of the deployments that are listed,
the first one with the name of the deployment counts. -/
inductive Decides (service deployment : String) :
    Except Failure (List Deployment) → Outcome Unit → Prop
  | unavailable (e : Failure) :
      Decides service deployment (.error e) (.failed (.rolloutStateUnavailable service e.message))
  | missing {found : List Deployment} : (∀ d ∈ found, d.id ≠ deployment) →
      Decides service deployment (.ok found) (.failed (.rolloutStateUnavailable service
        ("deployment " ++ deployment ++ " not found")))
  | stateless {found : List Deployment} {d : Deployment} :
      found.find? (·.id == deployment) = some d → d.rolloutState = none →
      Decides service deployment (.ok found) (.failed (.rolloutStateUnavailable service
        ("deployment " ++ deployment ++ " has no rollout state")))
  | completed {found : List Deployment} {d : Deployment} :
      found.find? (·.id == deployment) = some d → d.rolloutState = some "COMPLETED" →
      Decides service deployment (.ok found) (.ok ())
  | failed {found : List Deployment} {d : Deployment} :
      found.find? (·.id == deployment) = some d → d.rolloutState = some "FAILED" →
      Decides service deployment (.ok found) (.failed (.deploymentFailed service
        (d.rolloutStateReason.getD "unknown reason")))

/-- An answer of the cluster with which a rollout goes on. -/
def GoesOn (deployment : String) (found : List Deployment) : Prop :=
  ∃ d state, found.find? (·.id == deployment) = some d ∧ d.rolloutState = some state ∧
    state ≠ "COMPLETED" ∧ state ≠ "FAILED"

/-- What decides a rollout does not go on. -/
theorem GoesOn.not_decides {deployment service : String} {found : List Deployment}
    {o : Outcome Unit} (hgoes : GoesOn deployment found) :
    ¬ Decides service deployment (.ok found) o := by
  obtain ⟨d, state, hfind, hstate, hcompleted, hfailed⟩ := hgoes
  intro hdecides
  cases hdecides with
  | missing hnone =>
      have hd := List.find?_some hfind
      exact hnone d (List.mem_of_find?_eq_some hfind) (by simpa using hd)
  | stateless hfind' hstate' | completed hfind' hstate' | failed hfind' hstate' =>
      obtain rfl := Option.some.inj (hfind.symm.trans hfind')
      simp_all

/-! ### One look -/

/-- One look at a rollout: when it begins and ends, the moment from which on it asks for events,
what it adds to the journal while it looks at the logs, the events that it writes, and what the
cluster answers behind that, if it comes to that. -/
structure Look where
  begun : Nat
  ended : Nat
  start : Int
  tailed : List Entry
  written : List LogEvent
  told : Option (Except Failure (List Deployment))

/-- What a look adds to the journal. -/
def Look.entries (r : Rollout) (l : Look) : List Entry :=
  l.tailed ++ (l.told.map fun x => .call (.describeServices r.cluster r.service) x).toList

/-- What a look ends with that reads so many pages of the logs at most: it is cut short at the logs,
it decides the rollout, or it goes on with the next moment from which on events are new. -/
inductive Sees (r : Rollout) (rounds : Nat) (l : Look) : Outcome (Attempt Unit Int) → Prop
  | unread {e : Failure} :
      Tails r.group r.streams l.start rounds l.tailed l.written (.failed e) → l.told = none →
      Sees r rounds l (.failed e)
  | endless :
      Tails r.group r.streams l.start rounds l.tailed l.written .unfinished → l.told = none →
      Sees r rounds l .unfinished
  | decided {next : Int} {answer : Except Failure (List Deployment)} {o : Outcome Unit} :
      Tails r.group r.streams l.start rounds l.tailed l.written (.ok next) →
      l.told = some answer → Decides r.service r.deployment answer o →
      Sees r rounds l (o.map .done)
  | goesOn {next : Int} {found : List Deployment} :
      Tails r.group r.streams l.start rounds l.tailed l.written (.ok next) →
      l.told = some (.ok found) → GoesOn r.deployment found →
      Sees r rounds l (.ok (.again next))

/-- What the cluster tells of a deployment: either the answer decides the rollout as a failure, or
it has the deployment in some state. -/
theorem rolloutState_told (cluster service deployment : String) (h : Host σ) (w : World σ) :
    ∃ answer w', Prompt h w [.call (.describeServices cluster service) answer] w' ∧
      ((∃ e, rolloutState cluster service deployment h w = (.failed e, w') ∧
          Decides service deployment answer (.failed e)) ∨
        ∃ found d state, answer = .ok found ∧ found.find? (·.id == deployment) = some d ∧
          d.rolloutState = some state ∧
          rolloutState cluster service deployment h w =
            (.ok (.ofName state, d.rolloutStateReason), w')) := by
  have hprompt := Prompt.single h w (.describeServices cluster service)
  rcases hanswer : (h.answer (.describeServices cluster service) w.state).result with e | found
  · rw [hanswer] at hprompt
    have hrun : rolloutState cluster service deployment h w =
        (.failed (.rolloutStateUnavailable service e.message), _) :=
      Run.bind_ok (Run.attempt_failed (Run.call_error hanswer))
    exact ⟨_, _, hprompt, .inl ⟨_, hrun, .unavailable e⟩⟩
  · rw [hanswer] at hprompt
    have hcall := Run.attempt_ok (Run.call_ok hanswer)
    refine ⟨_, _, hprompt, ?_⟩
    rcases hfind : found.find? (·.id == deployment) with _ | d
    · refine .inl ⟨_, (Run.bind_ok hcall).trans (by simp only [hfind]; rfl), .missing ?_⟩
      intro d hd
      simpa using List.find?_eq_none.1 hfind d hd
    rcases hstate : d.rolloutState with _ | state
    · exact .inl ⟨_, (Run.bind_ok hcall).trans (by simp only [hfind, hstate]; rfl),
        .stateless hfind hstate⟩
    · exact .inr ⟨found, d, state, rfl, hfind, hstate,
        (Run.bind_ok hcall).trans (by simp only [hfind, hstate]; rfl)⟩

/-- The states that end a rollout are known by their names. -/
theorem ofName_goesOn {state : String} (hcompleted : state ≠ "COMPLETED")
    (hfailed : state ≠ "FAILED") :
    RolloutState.ofName state = .inProgress ∨ RolloutState.ofName state = .other state := by
  by_cases hprogress : state = "IN_PROGRESS"
  · simp [RolloutState.ofName, hprogress]
  · simp [RolloutState.ofName, hprogress, hcompleted, hfailed]

/-- An attempt to follow a rollout is a look: it makes the requests of that without a wait, and ends
as it does. -/
structure Observes (r : Rollout) (h : Host σ) (l : Look) (moment : Int) (w : World σ)
    (o : Outcome (Attempt Unit Int)) (w' : World σ) : Prop where
  begun : l.begun = w.clock
  ended : l.ended = w'.clock
  start : l.start = moment
  ran : rolloutPass r.cluster r.service r.deployment r.group r.streams moment h w = (o, w')
  prompt : Prompt h w (l.entries r) w'
  sees : Sees r h.rounds l o

/-- Every attempt to follow a rollout is a look. -/
theorem exists_observes (r : Rollout) (h : Host σ) (start : Int) (w : World σ) :
    ∃ l, Observes r h l start w
      (rolloutPass r.cluster r.service r.deployment r.group r.streams start h w).1
      (rolloutPass r.cluster r.service r.deployment r.group r.streams start h w).2 := by
  obtain ⟨t, written, o, w₁, hrun, hread, htails⟩ := tailLogs_tails r.group r.streams start h w
  -- what is left to say is what the cluster has answered, and what the attempt has come to
  suffices hlook : ∃ told o w',
      rolloutPass r.cluster r.service r.deployment r.group r.streams start h w = (o, w') ∧
      Prompt h w (Look.entries r ⟨w.clock, w'.clock, start, t, written, told⟩) w' ∧
      Sees r h.rounds ⟨w.clock, w'.clock, start, t, written, told⟩ o by
    obtain ⟨told, o, w', hpass, hprompt, hsees⟩ := hlook
    rw [hpass]
    exact ⟨⟨w.clock, w'.clock, start, t, written, told⟩, rfl, rfl, rfl, hpass, hprompt, hsees⟩
  rw [rolloutPass]
  rcases o with next | e | _
  · rw [Run.bind_ok hrun]
    obtain ⟨answer, w₂, hask, hcases⟩ :=
      rolloutState_told r.cluster r.service r.deployment h w₁
    refine ⟨some answer, ?_⟩
    rcases hcases with ⟨e, hfail, hdecides⟩ | ⟨found, d, state, rfl, hfind, hstate, hok⟩
    · rw [Run.bind_failed hfail]
      exact ⟨_, _, rfl, hread.trans hask, .decided htails rfl hdecides⟩
    · rw [Run.bind_ok hok]
      by_cases hcompleted : state = "COMPLETED"
      · subst hcompleted
        exact ⟨_, _, rfl, hread.trans hask, .decided htails rfl (.completed hfind hstate)⟩
      by_cases hfailed : state = "FAILED"
      · subst hfailed
        exact ⟨_, _, rfl, hread.trans hask, .decided htails rfl (.failed hfind hstate)⟩
      refine ⟨.ok (.again next), w₂, ?_, hread.trans hask,
        .goesOn htails rfl ⟨d, state, hfind, hstate, hcompleted, hfailed⟩⟩
      rcases ofName_goesOn hcompleted hfailed with hname | hname <;> simp only [hname] <;> rfl
  · rw [Run.bind_failed hrun]
    exact ⟨none, _, _, rfl, by simpa [Look.entries] using hread, .unread htails rfl⟩
  · rw [Run.bind_unfinished hrun]
    exact ⟨none, _, _, rfl, by simpa [Look.entries] using hread, .endless htails rfl⟩

theorem timing_observes (r : Rollout) (h : Host σ) :
    Run.Timing h (rolloutPass r.cluster r.service r.deployment r.group r.streams) (Observes r h)
      (Look.entries r) Look.begun Look.ended :=
  ⟨fun hl => hl.ran, fun hl => hl.begun, fun hl => hl.ended, fun hl => hl.prompt⟩

/-! ### The looks of a rollout -/

/-- The looks at a rollout from a moment on, two seconds apart, and what they come to: the last of
them decides, or time is up. -/
abbrev Watches (h : Host σ) (r : Rollout) (deadline : Nat) (start : Int) (w : World σ)
    (looks : List Look) (seen : Outcome (Attempt Unit Int)) (w' : World σ) : Prop :=
  Run.Tries 2000 deadline (Observes r h) start w looks seen w'

/-- The lines that say that a rollout is over: there is one if it has come to a good end. -/
def concluding (service : String) : Outcome Unit → List ReportLine
  | .ok () => [⟨.info, "ECS deployment of " ++ service ++ " completed", []⟩]
  | _ => []

/-- **Every rollout is followed by looks.**  It ends with what the last one has decided, or because
ten minutes are over. -/
theorem monitorRollout_watches (r : Rollout) (h : Host σ) (w : World σ) :
    ∃ looks seen w₁ o w',
      monitorRollout r.cluster r.service r.deployment r.group r.streams h w = (o, w') ∧
      Watches h r (w.clock + 600000) 0 w looks seen w₁ ∧
      o = seen.settled (fun _ => .deploymentTimeout r.service (w₁.clock - w.clock)) ∧
      Path h w₁ ((concluding r.service o).map .report) w' ∧ w'.clock = w₁.clock := by
  obtain ⟨looks, seen, w₁, hpoll, htries⟩ :=
    Run.poll_tries (s := .withTimeout rolloutTimeout) (by decide) (timing_observes r h).seeing
      (exists_observes r h) 0 w
  refine ⟨looks, seen, w₁, ?_⟩
  rw [monitorRollout]
  rcases seen with (⟨⟨⟩⟩ | next) | e | _
  · rw [Run.bind_ok hpoll]
    exact ⟨_, _, rfl, htries, rfl, .line h w₁ _, rfl⟩
  · rw [Run.bind_ok hpoll]
    exact ⟨_, _, rfl, htries, rfl, .refl, rfl⟩
  · rw [Run.bind_failed hpoll]
    exact ⟨_, _, rfl, htries, rfl, .refl, rfl⟩
  · rw [Run.bind_unfinished hpoll]
    exact ⟨_, _, rfl, htries, rfl, .refl, rfl⟩

end Cutover.Service
