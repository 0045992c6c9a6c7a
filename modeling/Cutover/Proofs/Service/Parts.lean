/-
**What the parts of a deployment ask.**

A deployment reads stored objects and parameters, asks the cluster, and follows logs.  Each of its
parts keeps to requests of some of these kinds, whatever it is answered.  The parts behind its
preparation only look: whatever they find, they do not complain of a precondition.

Main definitions:

* `Cutover.Request.isOfStore`, `Request.isOfCluster`, `Request.isOfLogs` — the kinds of requests;
* `Cutover.Entry.Among` — entries that are reports, or requests of some kinds;
* `Cutover.Run.Asks`, `Cutover.Run.Looks` — runs that keep to requests of some kinds.

Main results:

* `Cutover.Service.prepare_within` — preparing a deployment asks the store only, and has one
  precondition;
* `Cutover.Service.awaitRunningTasks_looks` — waiting for tasks lists tasks only;
* `Cutover.Service.awaitStreams_looks` — waiting for streams asks the logs only;
* `Cutover.Service.monitorRollout_looks`, `Cutover.Service.monitorRollout_looks_silent` — following
  a rollout asks how the service is, and nothing of the logs where there is no stream to follow.
-/
import Cutover.Proofs.Run.Poll
import Cutover.Proofs.Service.Substitution
import Cutover.Service.Deploy

set_option autoImplicit false

namespace Cutover

variable {σ α : Type}

/-! ### Kinds of requests -/

namespace Request

/-- Whether a request reads a stored object or a stored parameter. -/
def isOfStore : Request → Bool
  | .getObject _ _ | .getParameter _ | .getParametersByPath _ _ _ => true
  | _ => false

/-- Whether a request is one to the service that runs clusters. -/
def isOfCluster : Request → Bool
  | .describeClusters _ | .listClusters _ | .listTagsForResource _ => true
  | .registerTaskDefinition _ | .updateService _ _ _ => true
  | .listTasks _ _ _ | .describeTasks _ _ | .describeServices _ _ => true
  | _ => false

/-- Whether a request is one to the service that keeps logs. -/
def isOfLogs : Request → Bool
  | .describeLogStreams _ _ _ | .filterLogEvents _ _ _ _ => true
  | _ => false

/-- Whether a request changes what a cluster runs: it registers a task definition, or moves a
service. -/
def changesCluster : Request → Bool
  | .registerTaskDefinition _ | .updateService _ _ _ => true
  | _ => false

/-- Whether a request is one to the output of this process. -/
def isOfOutput : Request → Bool
  | .writeLine _ | .flushOutput => true
  | _ => false

end Request

/-- Entries that are reports, or requests of some kinds. -/
def Entry.Among (p : Request → Prop) : Entry → Prop
  | .call r _ => p r
  | .report _ => True

/-- A run that asks nothing but requests of some kinds. -/
abbrev Run.Asks (p : Request → Prop) (m : Run σ α) : Prop :=
  Run.Within (Entry.Among p) (fun _ => True) m

/-- A run that asks nothing but requests of some kinds, and none of whose own failures is of the
kind of a precondition. -/
abbrev Run.Looks (p : Request → Prop) (m : Run σ α) : Prop :=
  Run.Within (Entry.Among p) (fun e => e.kind ≠ .precondition) m

namespace Run.Within

variable {P P' : Entry → Prop} {F F' : Failure → Prop} {p p' : Request → Prop} {m : Run σ α}

theorem mono (hm : Within P F m) (hP : ∀ x, P x → P' x) (hF : ∀ e, F e → F' e) :
    Within P' F' m := by
  intro h w
  obtain ⟨t, hpath, ht, hfail⟩ := hm h w
  exact ⟨t, hpath, fun x hx => hP x (ht x hx), fun e he => (hfail e he).imp (hF e) id⟩

/-- What keeps to requests of some kinds keeps to the entries of these requests and of reports. -/
theorem of_among (hm : Within (Entry.Among p) F m) (hreport : ∀ line, P (.report line))
    (hcall : ∀ r x, p r → P (.call r x)) : Within P F m := by
  refine hm.mono (fun x hx => ?_) fun _ he => he
  cases x with
  | call r x => exact hcall r x hx
  | report line => exact hreport line

theorem widen (hm : Within (Entry.Among p) F m) (hp : ∀ r, p r → p' r) :
    Within (Entry.Among p') F m :=
  hm.of_among (fun _ => trivial) fun r _ hr => hp r hr

theorem ask {r : Request} (hr : p r) : Within (Entry.Among p) F (Run.call r : Run σ r.Reply) :=
  .call fun _ => hr

theorem tell (level : Level) (message : String) (details : List (String × String)) :
    Within (Entry.Among p) F (Run.report level message details : Run σ Unit) :=
  .reportLine trivial

end Run.Within

/-! ### The parts -/

namespace Service

/-- A configuration that is not there or cannot be read is no failed precondition. -/
theorem config_kind {files : Files} {baseDir environment service : String} {e : Failure}
    (he : ServiceConfig.load files baseDir environment service = .error e) :
    e.kind ≠ .precondition := by
  rw [ServiceConfig.load] at he
  rcases hread : files.read (ServiceConfig.path baseDir environment service) with e' | text <;>
    simp only [hread] at he
  · cases he
    simp [Failure.kind]
  · rw [ServiceConfig.ofYaml] at he
    split at he <;> cases he
    simp [Failure.kind]

/-- A malformed record is no failed precondition. -/
theorem pairsOf_kind {fields : List Json.Field} {stored : List Parameter} {e : Failure}
    (he : Application.pairsOf fields stored = .error e) : e.kind ≠ .precondition := by
  induction stored generalizing e with
  | nil => cases he
  | cons p rest ih =>
      rw [Application.pairsOf] at he
      rcases hp : Application.pairOf fields p with e' | pair <;> rw [hp] at he
      · cases he
        rw [Application.pairOf] at hp
        split at hp <;> cases hp <;> simp [Failure.kind]
      · rcases hrest : Application.pairsOf fields rest with e' | pairs <;> rw [hrest] at he <;>
          cases he
        exact ih hrest

/-- Loading an application asks the store only. -/
theorem load_looks (application : String) :
    Run.Looks (·.isOfStore) (Application.load application : Run σ Application) := by
  have hbelow : ∀ path recursive, Run.Looks (·.isOfStore)
      (Application.parametersBelow path recursive : Run σ (List Parameter)) := by
    intro path recursive
    exact (Run.Plain.listAll fun token => .call fun _ => rfl).within
  have hpairs : ∀ fields stored, Run.Looks (·.isOfStore)
      (Run.ofExcept (Application.pairsOf fields stored) : Run σ (List (String × String))) :=
    fun fields stored => (Run.Plain.ofExcept fun _ => pairsOf_kind).within
  have hexists : Run.Looks (·.isOfStore) (Application.checkExists application : Run σ Unit) := by
    refine Run.Within.rescue (.call fun _ => rfl) (fun _ => .pure ()) fun e => ?_
    cases e with
    | parameterNotFound name => exact .fail (.inl (by simp [Failure.kind]))
    | _ => exact .fail (.inr rfl)
  refine hexists.bind fun _ => ?_
  refine (hbelow _ _).bind fun environments => (hpairs _ _).bind fun _ => ?_
  exact (hbelow _ _).bind fun services => (hpairs _ _).bind fun _ => .pure _

theorem containerDefinitions_looks (application environment service : String) :
    Run.Looks (·.isOfStore) (containerDefinitions application environment service : Run σ _) := by
  refine Run.Within.rescue (.call fun _ => rfl) (fun body => ?_) fun e => ?_
  · refine (Run.Plain.ofExcept fun e he => ?_).within
    rcases hbody : templateOf body with reason | template <;> rw [hbody] at he <;> cases he
    simp [Failure.kind]
  · exact .fail (.inl (by simp [Failure.kind]))

/-- Preparing a deployment asks the store only; the one precondition that it has is that an image
takes the tag. -/
theorem prepare_within (files : Files) (baseDir : String) (t : Target) (tag : String) :
    Run.Within (Entry.Among (·.isOfStore))
      (fun e => e.kind ≠ .precondition ∨ e = .imageTagNotApplied t.service tag)
      (prepare files baseDir t tag : Run σ _) := by
  have hlooks : ∀ {α : Type} {m : Run σ α}, Run.Looks (·.isOfStore) m → Run.Within
      (Entry.Among (·.isOfStore))
      (fun e => e.kind ≠ .precondition ∨ e = .imageTagNotApplied t.service tag) m :=
    fun hm => hm.mono (fun _ hx => hx) fun _ he => .inl he
  refine (hlooks (Run.Plain.ofExcept fun _ => config_kind).within).bind fun config => ?_
  refine (hlooks (load_looks _)).bind fun app => ?_
  refine (hlooks (Run.Plain.ofExcept fun e he => ?_).within).bind fun environment => ?_
  · rw [Application.environment] at he
    split at he <;> cases he
    simp [Failure.kind]
  refine (hlooks (containerDefinitions_looks _ _ _)).bind fun template => ?_
  refine Run.Within.bind (Run.Plain.ofExcept fun e he => ?_).within fun _ => .pure _
  rw [applyImageTag_eq] at he
  split at he <;> cases he
  exact .inr rfl

/-- Preparing a deployment asks the store only. -/
theorem prepare_asks (files : Files) (baseDir : String) (t : Target) (tag : String) :
    Run.Asks (·.isOfStore) (prepare files baseDir t tag : Run σ _) :=
  (prepare_within files baseDir t tag).mono (fun _ hx => hx) fun _ _ => trivial

/-- Waiting for tasks lists tasks only. -/
theorem awaitRunningTasks_looks (cluster service deployment : String) (expected : Nat) :
    Run.Looks (fun r => ∃ token, r = .listTasks cluster (.runningForDeployment deployment) token)
      (awaitRunningTasks cluster service deployment expected : Run σ _) := by
  refine Run.Within.bind (.tell _ _ _) fun _ => Run.Within.bind (.poll (fun _ => ?_) _ _) ?_
  · refine Run.Within.bind ?_ fun arns => .pure _
    exact (Run.Plain.listAll fun token => .call fun _ => ⟨token, rfl⟩).within
  · intro polled
    cases polled with
    | done arns => exact .pure arns
    | timedOut found waited => exact .fail (by simp [Failure.kind])

/-- Whether a stream is there is not known only if the question fails. -/
theorem isStreamPresent_looks (group stream : String) :
    Run.Looks (·.isOfLogs) (isStreamPresent group stream : Run σ Bool) := by
  refine Run.Within.rescue (.call fun _ => rfl) (fun found => .pure _) fun e => ?_
  show Run.Within _ _ (if _ then _ else _)
  split
  · exact .pure false
  · exact .fail (.inr rfl)

theorem missingStreams_looks (group : String) (streams : List String) :
    Run.Looks (·.isOfLogs) (missingStreams group streams : Run σ (List String)) := by
  induction streams with
  | nil => exact .pure []
  | cons stream rest ih =>
      refine (isStreamPresent_looks group stream).bind fun present => ?_
      exact ih.bind fun missing => .pure _

/-- Waiting for streams asks the logs only. -/
theorem awaitStreams_looks (group : String) (streams : List String) :
    Run.Looks (·.isOfLogs) (awaitStreams group streams : Run σ Unit) := by
  refine Run.Within.bind (.poll (fun missing => ?_) _ _) fun polled => ?_
  · exact (missingStreams_looks group missing).bind fun left => .pure _
  · cases polled with
    | done => exact .pure ()
    | timedOut missing waited => exact .fail (by simp [Failure.kind])

/-- The logs of tasks are found by asking about the containers of the tasks and for streams. -/
theorem awaitLogs_looks (cluster service group : String) (tasks : List String) :
    Run.Looks (fun r => r = .describeTasks cluster tasks ∨ r.isOfLogs)
      (awaitLogs cluster service group tasks : Run σ _) := by
  rw [awaitLogs]
  split
  · exact Run.Within.bind (.tell _ _ _) fun _ => .pure []
  · refine Run.Within.bind ?_ fun names => Run.Within.bind ?_ fun _ => .pure _
    · exact Run.Within.bind (.ask (.inl rfl)) fun _ => .pure _
    · exact (awaitStreams_looks group _).widen fun r hr => .inr hr

theorem writeEvents_looks (events : List LogEvent) :
    Run.Looks (·.isOfOutput) (writeEvents events : Run σ Unit) := by
  induction events with
  | nil => exact .pure ()
  | cons e rest ih => exact Run.Within.bind (.ask rfl) fun _ => ih

/-- A look at the logs asks them for events, and writes these. -/
theorem tailLogs_looks (group : String) (streams : List String) (start : Int) :
    Run.Looks (fun r => r.isOfLogs ∨ r.isOfOutput) (tailLogs group streams start : Run σ Int) := by
  rw [tailLogs]
  split
  · exact .pure start
  refine Run.Within.bind ?_ fun events => ?_
  · refine Run.Within.bind ?_ fun events => .pure _
    exact (Run.Plain.listAll fun token => .call fun _ => Or.inl rfl).within
  · show Run.Looks _ (if _ then _ else _)
    split
    · exact .pure start
    · refine ((writeEvents_looks events).widen fun r hr => Or.inr hr).bind fun _ => ?_
      exact Run.Within.bind (.ask (.inr rfl)) fun _ => .pure _

/-- Without streams there is nothing to look at. -/
theorem tailLogs_nil (group : String) (start : Int) :
    (tailLogs group [] start : Run σ Int) = pure start :=
  rfl

theorem rolloutState_looks (cluster service deployment : String) :
    Run.Looks (· = .describeServices cluster service)
      (rolloutState cluster service deployment : Run σ _) := by
  refine Run.Within.rescue (.call fun _ => rfl) (fun found => ?_) fun e => ?_
  · simp only
    split
    · exact .fail (by simp [Failure.kind])
    · split
      · exact .fail (by simp [Failure.kind])
      · exact .pure _
  · exact .fail (.inl (by simp [Failure.kind]))

/-- What looks at the logs and at the rollout of a service ask, if the looks at the logs keep to
some requests. -/
theorem monitorRollout_within {p : Request → Prop} (cluster service deployment group : String)
    (streams : List String)
    (htail : ∀ start, Run.Looks p (tailLogs group streams start : Run σ Int)) :
    Run.Looks (fun r => p r ∨ r = .describeServices cluster service)
      (monitorRollout cluster service deployment group streams : Run σ Unit) := by
  refine Run.Within.bind (.poll (fun start => ?_) _ _) fun polled => ?_
  · refine ((htail start).widen fun r hr => Or.inl hr).bind fun next => ?_
    refine ((rolloutState_looks _ _ _).widen fun r hr => Or.inr hr).bind fun found => ?_
    obtain ⟨state, reason⟩ := found
    cases state with
    | completed => exact .pure _
    | failed => exact .fail (by simp [Failure.kind])
    | inProgress | other name => exact .pure _
  · cases polled with
    | done => exact .tell _ _ _
    | timedOut start waited => exact .fail (by simp [Failure.kind])

/-- Following a rollout asks how the service is, asks the logs, and writes. -/
theorem monitorRollout_looks (cluster service deployment group : String) (streams : List String) :
    Run.Looks (fun r => (r.isOfLogs ∨ r.isOfOutput) ∨ r = .describeServices cluster service)
      (monitorRollout cluster service deployment group streams : Run σ Unit) :=
  monitorRollout_within _ _ _ _ _ (tailLogs_looks group streams)

/-- Following a rollout without streams asks how the service is, and nothing else. -/
theorem monitorRollout_looks_silent (cluster service deployment group : String) :
    Run.Looks (· = .describeServices cluster service)
      (monitorRollout cluster service deployment group [] : Run σ Unit) := by
  have hsilent : ∀ start, Run.Looks (fun _ => False) (tailLogs group [] start : Run σ Int) := by
    intro start
    rw [tailLogs_nil]
    exact .pure start
  refine (monitorRollout_within _ _ _ _ _ hsilent).widen fun r hr => ?_
  exact hr.resolve_left id

end Service

end Cutover
