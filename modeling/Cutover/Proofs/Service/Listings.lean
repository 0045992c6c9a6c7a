/-
**Full listings.**

Seven listings are read to their end: load balancers, listeners, rules, target groups, tasks, events
and parameters.  Each of them asks for the first page without a marker and for every further one
with the marker of the page in front of it, and comes to the items of all pages.  Where one page
ends and the next one begins leaves no trace in what is read.

Main definitions:

* `Cutover.Listing` — the seven listings, with the requests for their pages and what reads them;
* `Cutover.Listing.Shows` — what is read of the items of all pages.

Main results:

* `Cutover.Listing.read_eq` — every listing is read in one way;
* `Cutover.Listing.read_pages` — **full listings do not depend on where their pages end**.
-/
import Cutover.LoadBalancer
import Cutover.Proofs.Service.Tail
import Cutover.Service.Application

set_option autoImplicit false

namespace Cutover

/-- What is listed to its end. -/
inductive Listing
  | loadBalancers
  | listeners (loadBalancer : String)
  | rules (listener : String)
  | targetGroups
  | tasks (cluster : String) (filter : TaskFilter)
  | events (group : String) (streams : List String) (start : Int)
  | parameters (path : String) (recursive : Bool)

namespace Listing

variable {σ : Type}

/-- What is on the pages of a listing. -/
def Item : Listing → Type
  | loadBalancers => String
  | listeners _ => Listener
  | rules _ => ListenerRule
  | targetGroups => TargetGroup
  | tasks _ _ => String
  | events _ _ _ => LogEvent
  | parameters _ _ => Parameter

/-- The request for the page at a marker, with its answer. -/
def asks : (l : Listing) → Option String → Except Failure (Page l.Item) → Entry
  | loadBalancers, m, x => .call (.describeLoadBalancers m) x
  | listeners loadBalancer, m, x => .call (.describeListeners loadBalancer m) x
  | rules listener, m, x => .call (.describeRules listener m) x
  | targetGroups, m, x => .call (.describeTargetGroups m) x
  | tasks cluster filter, m, x => .call (.listTasks cluster filter m) x
  | events group streams start, m, x => .call (.filterLogEvents group streams start m) x
  | parameters path recursive, m, x => .call (.getParametersByPath path recursive m) x

/-- What reads a listing to its end. -/
def read : (l : Listing) → Run σ (List l.Item)
  | loadBalancers => LoadBalancer.all
  | listeners loadBalancer => LoadBalancer.listeners loadBalancer
  | rules listener => LoadBalancer.rules listener
  | targetGroups => LoadBalancer.targetGroups
  | tasks cluster filter => Service.taskArns cluster filter
  | events group streams start => Service.eventsSince group streams start
  | parameters path recursive => Application.parametersBelow path recursive

/-- What is read of the items of all pages: these items themselves, and of events those that are not
old, in the order of time and for one moment in the order in which they were listed. -/
def Shows : (l : Listing) → List l.Item → List l.Item → Prop
  | events _ _ start, items, shown => Service.Due start items shown
  | _, items, shown => shown = items

/-! ### One way to read -/

/-- The request for the page at a marker. -/
def fetch : (l : Listing) → Option String → Run σ (Page l.Item)
  | loadBalancers, m => Run.call (.describeLoadBalancers m)
  | listeners loadBalancer, m => Run.call (.describeListeners loadBalancer m)
  | rules listener, m => Run.call (.describeRules listener m)
  | targetGroups, m => Run.call (.describeTargetGroups m)
  | tasks cluster filter, m => Run.call (.listTasks cluster filter m)
  | events group streams start, m => Run.call (.filterLogEvents group streams start m)
  | parameters path recursive, m => Run.call (.getParametersByPath path recursive m)

/-- What is made of the items of all pages. -/
def finish : (l : Listing) → List l.Item → List l.Item
  | events _ _ start, items => Service.sinceInOrder start items
  | _, items => items

theorem shows_iff (l : Listing) {items shown : List l.Item} :
    l.Shows items shown ↔ shown = l.finish items := by
  cases l with
  | events group streams start => exact Service.due_iff
  | _ => exact Iff.rfl

/-- Every listing is read in one way. -/
theorem read_eq (l : Listing) :
    (l.read : Run σ (List l.Item)) = Run.listAll l.fetch >>= fun items => pure (l.finish items) := by
  cases l with
  | events group streams start => rfl
  | _ => exact (bind_pure (_ : Run σ _)).symm

theorem follows_fetch (l : Listing) : Run.Follows l.asks (l.fetch : Option String → Run σ _) := by
  intro token answer rest h w hserved
  cases l <;> exact ⟨_, Run.call_follows hserved⟩

/-- A listing of given pages comes to what is made of their items. -/
theorem read_served (l : Listing) {h : Host σ} {w : World σ} {p : Pages l.Item}
    (hserved : h.Answers w (p.asked l.asks none)) (hrounds : p.length ≤ h.rounds) :
    ∃ w', l.read h w = ((Outcome.ofAnswer p.items).map l.finish, w') ∧
      Path h w (p.asked l.asks none) w' := by
  obtain ⟨w', hrun, hpath⟩ := Run.listAll_pages l.follows_fetch hserved hrounds
  refine ⟨w', ?_, hpath⟩
  rw [read_eq]
  exact Run.bind_pure_eq hrun l.finish

/-- **Full listings do not depend on where their pages end.**  A host that serves given pages, and
has rounds for them, is asked for these pages, each once and by the marker of the page in front of
it, and for nothing else.
The listing comes to the items of all pages, one page behind the other, or to the failure of the
page that is refused.  Any other pages with these items, served by whatever host, come to the
same. -/
theorem read_pages (l : Listing) {h : Host σ} {w : World σ} {p : Pages l.Item}
    (hserved : h.Answers w (p.asked l.asks none)) (hrounds : p.length ≤ h.rounds) :
    (l.read h w).2.since w = p.asked l.asks none ∧
      (∀ items, p.items = .ok items →
        ∃ shown, (l.read h w).1 = .ok shown ∧ l.Shows items shown) ∧
      (∀ e, p.items = .error e → (l.read h w).1 = .failed e) ∧
      ∀ {τ : Type} (h' : Host τ) (w' : World τ) (p' : Pages l.Item),
        h'.Answers w' (p'.asked l.asks none) → p'.length ≤ h'.rounds → p'.items = p.items →
          (l.read h' w').1 = (l.read h w).1 := by
  obtain ⟨w₁, hrun, hpath⟩ := l.read_served hserved hrounds
  rw [hrun]
  refine ⟨hpath.since_eq, fun items hitems => ?_, fun e he => ?_, ?_⟩
  · rw [hitems]
    exact ⟨_, rfl, l.shows_iff.2 rfl⟩
  · rw [he]
    rfl
  · intro τ h' w' p' hserved' hrounds' hitems
    obtain ⟨w₂, hrun', -⟩ := l.read_served hserved' hrounds'
    rw [hrun', hitems]

/-- The requests for pages are requests. -/
theorem asked_calls (l : Listing) (p : Pages l.Item) (token : Option String) :
    ∀ x ∈ p.asked l.asks token, ∃ r result, x = .call r result := by
  have hasks : ∀ m x, ∃ r result, l.asks m x = .call r result := by
    intro m x
    cases l <;> exact ⟨_, _, rfl⟩
  induction p generalizing token with
  | last items | refused e =>
      intro x hx
      rw [List.mem_singleton.1 hx]
      exact hasks _ _
  | more items marker rest ih =>
      intro x hx
      rcases List.mem_cons.1 hx with rfl | hx
      · exact hasks _ _
      · exact ih _ x hx

/-- An event at a time. -/
def eventAt (stream : String) (time : Int) : LogEvent := ⟨stream, time, "line"⟩

/-- Events on three pages, of which one is empty; they are not in the order of time. -/
def scattered : Pages LogEvent :=
  .more [eventAt "web" 9, eventAt "web" 7] "a"
    (.more [] "b" (.last [eventAt "job" 7, eventAt "job" 2]))

/-- The same events on one page. -/
def together : Pages LogEvent :=
  .last [eventAt "web" 9, eventAt "web" 7, eventAt "job" 7, eventAt "job" 2]

theorem read_pages_scattered :
    let l : Listing := .events "group" ["web", "job"] 5
    let h : Host (List Entry) := .scripted 3
    ∃ shown, (l.read h ⟨scattered.asked l.asks none, 0, #[]⟩).1 = .ok shown ∧
      (l.read h ⟨together.asked l.asks none, 0, #[]⟩).1 = .ok shown ∧
      shown = [eventAt "web" 7, eventAt "job" 7, eventAt "web" 9] := by
  intro l h
  have hserved : ∀ p : Pages l.Item,
      h.Answers ⟨p.asked l.asks none, 0, #[]⟩ (p.asked l.asks none) :=
    fun p => Host.scripted_answers 3 (l.asked_calls p none) 0 #[]
  obtain ⟨-, hshown, -, hany⟩ := l.read_pages (hserved scattered) (by decide)
  obtain ⟨shown, hread, hdue⟩ := hshown _ rfl
  refine ⟨shown, hread, (hany h _ together (hserved together) (by decide) rfl).trans hread, ?_⟩
  refine (Service.due_iff.1 hdue).trans (?_ : Service.sinceInOrder 5
    [eventAt "web" 9, eventAt "web" 7, eventAt "job" 7, eventAt "job" 2] = _)
  simp [Service.sinceInOrder, eventAt, List.mergeSort, List.MergeSort.Internal.splitInTwo]

end Listing

end Cutover
