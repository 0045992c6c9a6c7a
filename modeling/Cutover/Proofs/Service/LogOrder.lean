/-
**Logs are written once and in order.**

Whatever a host returns for its logs, old events, events in any order, or the same event again and
again, a rollout writes each event at one look at most, and all of them in the order of time.  The
reason is the moment from which on events are new: a look writes nothing in front of it and moves it
behind everything that it writes.

Main results:

* `Cutover.Service.Watches.first`, `Cutover.Service.Watches.chain` — how the moment moves;
* `Cutover.Service.Watches.increasing` — a later look writes later events;
* `Cutover.Service.monitorRollout_writes_once` — **logs are written once and in order**.
-/
import Mathlib.Algebra.Module.Submodule.Lattice
import Mathlib.Data.List.Chain
import Mathlib.Data.List.Permutation
import Cutover.Proofs.Service.Rollout

set_option autoImplicit false

namespace Cutover.Service

variable {σ : Type} {r : Rollout} {h : Host σ} {w w' : World σ} {start next : Int}
  {deadline rounds : Nat} {looks : List Look} {seen : Outcome (Attempt Unit Int)} {l : Look}

/-! ### One look -/

/-- A look that goes on was not cut short at the logs. -/
theorem Sees.tails_again (hsees : Sees r rounds l (.ok (.again next))) :
    Tails r.group r.streams l.start rounds l.tailed l.written (.ok next) ∧ l.told ≠ none := by
  generalize ho : Outcome.ok (Attempt.again next : Attempt Unit Int) = o at hsees
  cases hsees with
  | unread | endless => cases ho
  | @decided _ _ o _ _ _ => rcases o with x | e | _ <;> cases ho
  | goesOn htails htold _ =>
      cases ho
      exact ⟨htails, by simp [htold]⟩

/-- Of every look the grammar says what it writes; a look after which the cluster was asked was not
cut short at the logs, and any other ends as it was cut short. -/
theorem Sees.tails {o : Outcome (Attempt Unit Int)} (hsees : Sees r rounds l o) :
    ∃ q, Tails r.group r.streams l.start rounds l.tailed l.written q ∧
      (l.told ≠ none → ∃ next, q = .ok next) ∧
      (l.told = none →
        (∃ e, q = .failed e ∧ o = .failed e) ∨ q = .unfinished ∧ o = .unfinished) := by
  cases hsees with
  | @unread e htails htold => exact ⟨_, htails, by simp [htold], fun _ => .inl ⟨e, rfl, rfl⟩⟩
  | endless htails htold => exact ⟨_, htails, by simp [htold], fun _ => .inr ⟨rfl, rfl⟩⟩
  | decided htails htold _ | goesOn htails htold _ =>
      exact ⟨_, htails, fun _ => ⟨_, rfl⟩, by simp [htold]⟩

/-! ### All looks -/

namespace Watches

/-- Of every look the grammar says what it writes. -/
theorem sees (hwatches : Watches h r deadline start w looks seen w') :
    ∀ l ∈ looks, ∃ o, Sees r h.rounds l o := by
  intro l hl
  obtain ⟨moment, u, o, u', hl⟩ := hwatches.seen l hl
  exact ⟨o, hl.sees⟩

/-- Where there is time there is a look. -/
theorem ne_nil (hwatches : Watches h r deadline start w looks seen w')
    (hearly : w.clock < deadline) : looks ≠ [] := by
  cases hwatches with
  | late hlate => omega
  | last | again => simp

/-- The first look asks for the events from the first moment on. -/
theorem first (hwatches : Watches h r deadline start w looks seen w') :
    ∀ l ∈ looks.head?, l.start = start := by
  cases hwatches with
  | late _ => simp
  | last _ hl _ | again _ hl _ => simpa using hl.start

/-- From look to look the moment moves behind what was written. -/
theorem chain (hstreams : r.streams ≠ [])
    (hwatches : Watches h r deadline start w looks seen w') :
    looks.IsChain fun a b => Advances a.start a.written b.start := by
  induction hwatches with
  | late _ => exact .nil
  | last _ _ _ => exact .singleton _
  | again _ hl hrest ih =>
      obtain ⟨-, -, -, -, -, -, hadvances⟩ := hl.sees.tails_again.1.complete hstreams
      refine List.isChain_cons.2 ⟨fun b hb => ?_, ih⟩
      rwa [first hrest b hb]

/-- Nothing is written that is older than the first moment. -/
theorem written_ge (hwatches : Watches h r deadline start w looks seen w') :
    ∀ l ∈ looks, ∀ e ∈ l.written, start ≤ e.timestamp := by
  induction hwatches with
  | late _ => simp
  | last _ hl _ =>
      intro l' hl'
      obtain rfl := List.mem_singleton.1 hl'
      obtain ⟨q, htails, -, -⟩ := hl.sees.tails
      rw [← hl.start]
      exact htails.sorted.2
  | again _ hl _ ih =>
      intro l' hl' e he
      have htails := hl.sees.tails_again.1
      rw [← hl.start]
      rcases List.mem_cons.1 hl' with rfl | hl'
      · exact htails.sorted.2 e he
      · have hmoves := htails.moves.1
        have hnew := ih l' hl' e he
        omega

/-- What a later look writes is later than all that an earlier one has written. -/
theorem increasing (hwatches : Watches h r deadline start w looks seen w') :
    looks.Pairwise fun a b => ∀ x ∈ a.written, ∀ y ∈ b.written, x.timestamp < y.timestamp := by
  induction hwatches with
  | late _ => exact .nil
  | last _ _ _ => exact List.pairwise_singleton _ _
  | again _ hl hrest ih =>
      refine List.pairwise_cons.2 ⟨fun b hb x hx y hy => ?_, ih⟩
      have hbefore := hl.sees.tails_again.1.moves.2 x hx
      have hbehind := written_ge hrest b hb y hy
      omega

/-- All that is written is in the order of time. -/
theorem written_sorted (hwatches : Watches h r deadline start w looks seen w') :
    (looks.flatMap (·.written)).Pairwise (·.timestamp ≤ ·.timestamp) := by
  refine List.pairwise_flatMap.2 ⟨fun l hl => ?_, ?_⟩
  · obtain ⟨o, hsees⟩ := hwatches.sees l hl
    obtain ⟨q, htails, -, -⟩ := hsees.tails
    exact htails.sorted.1
  · refine hwatches.increasing.imp fun hlt x hx y hy => ?_
    have := hlt x hx y hy
    omega

/-- The lines of a rollout are those of the events that its looks write. -/
theorem lines (hwatches : Watches h r deadline start w looks seen w') :
    linesIn (looks.flatMap (Look.entries r)) = (looks.flatMap (·.written)).map formatEvent := by
  have hsees := hwatches.sees
  clear hwatches
  induction looks with
  | nil => rfl
  | cons l rest ih =>
      have hl : linesIn (l.entries r) = l.written.map formatEvent := by
        obtain ⟨o, hl⟩ := hsees l List.mem_cons_self
        obtain ⟨q, htails, -, -⟩ := hl.tails
        rw [Look.entries, linesIn_append, htails.lines]
        cases l.told <;> simp [linesIn]
      have hrest := ih fun l' hl' => hsees l' (List.mem_cons_of_mem l hl')
      rw [List.flatMap_cons, List.flatMap_cons, List.map_append, linesIn_append, hl, hrest]

/-- Only the last look can be cut short at the logs, and the rollout ends as it was cut short. -/
theorem cutShort (hwatches : Watches h r deadline start w looks seen w') :
    (∀ l ∈ looks.dropLast, l.told ≠ none) ∧
      ∀ l ∈ looks, l.told = none → ∃ q,
        Tails r.group r.streams l.start h.rounds l.tailed l.written q ∧
          ((∃ e, q = .failed e ∧ seen = .failed e) ∨ q = .unfinished ∧ seen = .unfinished) := by
  induction hwatches with
  | late _ => simp
  | last _ hl _ =>
      refine ⟨by simp, fun l' hl' htold => ?_⟩
      obtain rfl := List.mem_singleton.1 hl'
      obtain ⟨q, htails, -, hcut⟩ := hl.sees.tails
      exact ⟨q, htails, hcut htold⟩
  | @again l _ _ _ _ _ looks _ _ hl _ ih =>
      have htold := hl.sees.tails_again.2
      constructor
      · intro l' hl'
        rcases looks with _ | ⟨b, rest⟩
        · cases hl'
        · rcases List.mem_cons.1 hl' with rfl | hl'
          · exact htold
          · exact ih.1 l' hl'
      · intro l' hl' hnone
        rcases List.mem_cons.1 hl' with rfl | hl'
        · exact absurd hnone htold
        · exact ih.2 l' hl' hnone

end Watches

/-! ### Whole rollouts -/

/-- **Logs are written once and in order.**  A rollout whose logs have streams consists of looks.
The first one asks for the events from the moment 0 on, and each further one from one more than the
largest time that the one before it has written, or from the same moment if nothing was written.  A
look behind which the cluster is asked has read all pages and written exactly what is due of them;
only the last look can be cut short, and the rollout fails as that look does.  So the events are
written in the order of time, every look writes later events than all looks in front of it, and
nothing that one look has written is written by another. -/
theorem monitorRollout_writes_once {o : Outcome Unit} (hstreams : r.streams ≠ [])
    (hrun : monitorRollout r.cluster r.service r.deployment r.group r.streams h w = (o, w')) :
    ∃ (looks : List Look) (lines : List ReportLine), looks ≠ [] ∧
      w'.since w = looks.flatMap (Look.entries r) ++ lines.map .report ∧
      linesIn (w'.since w) = (looks.flatMap (·.written)).map formatEvent ∧
      (∀ l ∈ looks.head?, l.start = 0) ∧
      (looks.IsChain fun a b => Advances a.start a.written b.start) ∧
      (∀ l ∈ looks, ∀ group streams start token x,
        Entry.call (.filterLogEvents group streams start token) x ∈ l.tailed →
          group = r.group ∧ streams = r.streams ∧ start = l.start) ∧
      (∀ l ∈ looks, l.told ≠ none → ∃ read returned flushed,
        l.tailed = read ++ (l.written.map wrote ++ flushed) ∧
        Reads r.group r.streams l.start h.rounds read (.ok returned) ∧
        Due l.start returned l.written) ∧
      (∀ l ∈ looks.dropLast, l.told ≠ none) ∧
      (∀ l ∈ looks, l.told = none → ∃ q,
        Tails r.group r.streams l.start h.rounds l.tailed l.written q ∧
          ((∃ e, q = .failed e ∧ o = .failed e) ∨ q = .unfinished ∧ o = .unfinished)) ∧
      (looks.flatMap (·.written)).Pairwise (·.timestamp ≤ ·.timestamp) ∧
      (looks.Pairwise fun a b => ∀ x ∈ a.written, ∀ y ∈ b.written, x.timestamp < y.timestamp) ∧
      looks.Pairwise fun a b => ∀ x ∈ a.written, x ∉ b.written := by
  obtain ⟨looks, seen, w₁, o', w₂, hrun', hwatches, ho, hlines, -⟩ := monitorRollout_watches r h w
  obtain ⟨rfl, rfl⟩ := Prod.mk.inj (hrun'.symm.trans hrun)
  have hsince := ((hwatches.path (timing_observes r h)).trans hlines).since_eq
  have hreports : linesIn ((concluding r.service o').map .report) = [] := by
    refine List.filterMap_eq_nil_iff.2 fun x hx => ?_
    obtain ⟨line, -, rfl⟩ := List.mem_map.1 hx
    rfl
  have hmoments := hwatches.chain hstreams
  have hincreasing := hwatches.increasing
  obtain ⟨hasked, hcut⟩ := hwatches.cutShort
  refine ⟨looks, _, hwatches.ne_nil (by omega), hsince, ?_, hwatches.first,
    hmoments, ?_, ?_, hasked, ?_, hwatches.written_sorted, hincreasing, ?_⟩
  · rw [hsince, linesIn_append, hreports, List.append_nil, hwatches.lines]
  · intro l hl group streams start token x hx
    obtain ⟨_, hsees⟩ := hwatches.sees l hl
    obtain ⟨q, htails, -, -⟩ := hsees.tails
    exact htails.asks hx
  · intro l hl htold
    obtain ⟨_, hsees⟩ := hwatches.sees l hl
    obtain ⟨q, htails, hnext, -⟩ := hsees.tails
    obtain ⟨next, rfl⟩ := hnext htold
    obtain ⟨read, returned, flushed, hsplit, hreads, hdue, -⟩ := htails.complete hstreams
    exact ⟨read, returned, flushed, hsplit, hreads, hdue⟩
  · intro l hl htold
    obtain ⟨q, htails, ⟨e, hq, rfl⟩ | ⟨hq, rfl⟩⟩ := hcut l hl htold
    · exact ⟨q, htails, .inl ⟨e, hq, ho⟩⟩
    · exact ⟨q, htails, .inr ⟨hq, ho⟩⟩
  · refine hincreasing.imp fun hlt x hx hx' => ?_
    have := hlt x hx x hx'
    omega

/-- A rollout of one service. -/
def smallRollout : Rollout := ⟨"cluster", "web", "ecs-svc/1", "/logs/web", ["web/main/1"]⟩

/-- The pages of the logs at the `n`th look, which come out of order and again and again. -/
def repeatedPage (n : Nat) (token : Option String) : Page LogEvent :=
  let event (time : Int) (text : String) : LogEvent := ⟨"web/main/1", time, text⟩
  match n, token with
  | 0, none => ⟨[event 5 "second", event 3 "first"], some "more"⟩
  | 0, some _ => ⟨[event 5 "third"], none⟩
  | 1, _ => ⟨[event 7 "last", event 5 "second", event 3 "first"], none⟩
  | _, _ => ⟨[event 7 "last"], none⟩

/-- A host whose logs repeat themselves and whose deployment is completed at the third look. -/
def repeatingHost : Host Nat where
  rounds := 5
  answer request n := match request with
    | .filterLogEvents _ _ _ token => ⟨.ok (repeatedPage n token), 10, n⟩
    | .describeServices _ _ =>
      ⟨.ok [⟨"ecs-svc/1", "PRIMARY", some (if n < 2 then "IN_PROGRESS" else "COMPLETED"), none⟩],
        10, n + 1⟩
    | .writeLine _ => ⟨.ok (), 1, n⟩
    | .flushOutput => ⟨.ok (), 1, n⟩
    | _ => ⟨.error (.ecs "out of reach"), 0, n⟩

/-- The repeating host sees every event written once, in the order of time and of arrival. -/
theorem monitorRollout_writes_once_small :
    smallRollout.streams ≠ [] ∧ ∃ (w' : World Nat) (looks : List Look),
      monitorRollout smallRollout.cluster smallRollout.service smallRollout.deployment
        smallRollout.group smallRollout.streams repeatingHost ⟨0, 0, #[]⟩ = (.ok (), w') ∧
      (looks.flatMap (·.written)).map formatEvent =
        ["[web/main/1] [1970-01-01 00:00:00] first", "[web/main/1] [1970-01-01 00:00:00] second",
          "[web/main/1] [1970-01-01 00:00:00] third", "[web/main/1] [1970-01-01 00:00:00] last"] ∧
      (looks.IsChain fun a b => Advances a.start a.written b.start) ∧
      looks.Pairwise fun a b => ∀ x ∈ a.written, x ∉ b.written := by
  have hvalue : (monitorRollout smallRollout.cluster smallRollout.service
      smallRollout.deployment smallRollout.group smallRollout.streams repeatingHost
      ⟨0, 0, #[]⟩).1.value? = some () := by
    -- the submodules and permutations are imported for the equations that this unfolds `≤` by
    cbv
  have hwritten : linesIn ((monitorRollout smallRollout.cluster smallRollout.service
      smallRollout.deployment smallRollout.group smallRollout.streams repeatingHost
      ⟨0, 0, #[]⟩).2.since ⟨0, 0, #[]⟩) =
        ["[web/main/1] [1970-01-01 00:00:00] first", "[web/main/1] [1970-01-01 00:00:00] second",
          "[web/main/1] [1970-01-01 00:00:00] third",
          "[web/main/1] [1970-01-01 00:00:00] last"] := by
    cbv
  have hstreams : smallRollout.streams ≠ [] := by decide
  obtain ⟨looks, lines, -, -, hlines, -, hchain, -, -, -, -, -, -, hnodup⟩ :=
    monitorRollout_writes_once hstreams (Outcome.eq_ok hvalue)
  exact ⟨hstreams, _, looks, Outcome.eq_ok hvalue, hlines.symm.trans hwritten, hchain, hnodup⟩

end Cutover.Service
