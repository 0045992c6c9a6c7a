/-
**The searches for a certificate and for a cluster.**

Two searches do not read a listing to its end: the one for the default certificate of a listener,
and the one for the cluster with the tags of an environment, which asks for the tags of the clusters
one after the other.  They come to what a search in the whole listing comes to, and they leave out
what is asked behind the find.

Main definitions:

* `Cutover.Search` — the two searches; `Search.run` is what searches;
* `Cutover.Search.accepts` — what is searched for;
* `Cutover.Search.looks` — the looks at the whole listing.

Main results:

* `Cutover.Search.run_eq` — both searches are made in one way;
* `Cutover.Search.run_decided` — **an early end changes nothing but what is asked behind it**.
-/
import Cutover.LoadBalancer
import Cutover.Proofs.Run.Search
import Cutover.Service.Cluster

set_option autoImplicit false

namespace Cutover

/-- What is searched for: the default certificate of a listener, or the cluster of an
environment. -/
inductive Search
  | certificate (listener environment : String)
  | cluster (application environment : String)

namespace Search

variable {σ : Type}

/-- What is on the pages that are searched. -/
def Item : Search → Type
  | certificate _ _ => Certificate
  | cluster _ _ => String

/-- The request for the page at a marker, with its answer. -/
def asks : (s : Search) → Option String → Except Failure (Page s.Item) → Entry
  | certificate listener _, m, x => .call (.describeListenerCertificates listener m) x
  | cluster _ _, m, x => .call (.listClusters m) x

/-- What is returned for an item that is found. -/
def arn : (s : Search) → s.Item → String
  | certificate _ _, (c : Certificate) => c.arn
  | cluster _ _, (arn : String) => arn

/-- What a search fails with that has found nothing. -/
def notFound : Search → Failure
  | certificate _ environment => .certificateNotFound environment
  | cluster application environment => .clusterNotFound application environment

/-- What searches. -/
def run : Search → Run σ String
  | certificate listener environment => LoadBalancer.certificateForListener listener environment
  | cluster application environment => Service.clusterByTags application environment

/-- The three tags of the cluster of an environment. -/
def HasTags (application environment : String) (tags : Tags) : Prop :=
  tags.find? "copilot-application" = some application ∧
    tags.find? "copilot-environment" = some environment ∧
      tags.find? "aws:cloudformation:logical-id" = some "Cluster"

instance (application environment : String) (tags : Tags) :
    Decidable (HasTags application environment tags) :=
  inferInstanceAs (Decidable (_ ∧ _))

/-- Whether an item is searched for: a certificate that is the default one, or a cluster with the
three tags, by what the host tells of tags. -/
def accepts (store : String → Except Failure Tags) : (s : Search) → s.Item → Bool
  | certificate _ _, (c : Certificate) => c.isDefault
  | cluster application environment, (arn : String) =>
    match store arn with
    | .error _ => false
    | .ok tags => decide (HasTags application environment tags)

/-- The request about an item, if there is one, with its answer. -/
def asksAbout (store : String → Except Failure Tags) : (s : Search) → s.Item → List Entry
  | certificate _ _, _ => []
  | cluster _ _, (arn : String) => [.call (.listTagsForResource arn) (store arn)]

/-- The refusal of the request about an item, if it is refused. -/
def refusal? (store : String → Except Failure Tags) : (s : Search) → s.Item → Option Failure
  | certificate _ _, _ => none
  | cluster _ _, (arn : String) =>
    match store arn with
    | .error e => some e
    | .ok _ => none

/-- The look at an item. -/
def look (s : Search) (store : String → Except Failure Tags) (x : s.Item) : Look String where
  asked := s.asksAbout store x
  verdict :=
    match s.refusal? store x with
    | some e => some (.error e)
    | none => if s.accepts store x then some (.ok (s.arn x)) else none

/-- The looks at the whole listing. -/
def looks (s : Search) (store : String → Except Failure Tags) (p : Pages s.Item) :
    List (Look String) :=
  p.looks s.asks (s.look store) none

/-- What a search ends with that has come to a decision, or to the end of the listing. -/
def ending (s : Search) : Option (Except Failure String) → Outcome String
  | some (.ok arn) => .ok arn
  | some (.error e) => .failed e
  | none => .failed s.notFound

/-- Whether a request is for tags. -/
def isForTags : Entry → Bool
  | .call (.listTagsForResource _) _ => true
  | _ => false

/-! ### One way to search -/

/-- The request for the page at a marker. -/
def fetch : (s : Search) → Option String → Run σ (Page s.Item)
  | certificate listener _, m => Run.call (.describeListenerCertificates listener m)
  | cluster _ _, m => Run.call (.listClusters m)

/-- What is done with an item. -/
def examine : (s : Search) → s.Item → Run σ (Option String)
  | certificate _ _, (c : Certificate) => return if c.isDefault then some c.arn else none
  | cluster application environment, (arn : String) => do
    let tags : Tags ← Run.call (.listTagsForResource arn)
    return if Service.isClusterOf application environment tags then some arn else none

/-- Both searches are made in one way. -/
theorem run_eq (s : Search) :
    (s.run : Run σ String) = Run.findInPages s.fetch s.examine >>= fun found =>
      match found with
      | some arn => return arn
      | none => Run.fail s.notFound := by
  cases s <;> rfl

theorem follows_fetch (s : Search) : Run.Follows s.asks (s.fetch : Option String → Run σ _) := by
  intro token answer rest h w hserved
  cases s <;> exact ⟨_, Run.call_follows hserved⟩

/-- The tags of a cluster are those that are searched for. -/
theorem isClusterOf_eq (application environment : String) (tags : Tags) :
    Service.isClusterOf application environment tags =
      decide (HasTags application environment tags) := by
  rw [Bool.eq_iff_iff, decide_eq_true_iff]
  simp [Service.isClusterOf, HasTags, Dict.hasValue, and_assoc]

section cluster

variable {store : String → Except Failure Tags} {application environment arn : String}

theorem verdict_of_refused {e : Failure} (harn : store arn = .error e) :
    (look (cluster application environment) store arn).verdict = some (.error e) := by
  simp [look, refusal?, harn]

theorem verdict_of_told {tags : Tags} (harn : store arn = .ok tags) :
    (look (cluster application environment) store arn).verdict =
      if decide (HasTags application environment tags) then some (.ok arn) else none := by
  simp [look, refusal?, accepts, harn, Search.arn]

end cluster

/-- What is done with an item is the look at it. -/
theorem sees_examine (s : Search) (store : String → Except Failure Tags) :
    Run.Sees (s.look store) (s.examine : s.Item → Run σ (Option String)) := by
  intro x rest h w hserved
  cases s with
  | certificate listener environment =>
      refine ⟨w, ?_, .refl, hserved⟩
      change (Outcome.ok (if x.isDefault then some x.arn else none), w) =
        (.ofAnswer (Look.found (if x.isDefault then some (.ok x.arn) else none)), w)
      split <;> rfl
  | cluster application environment =>
      obtain ⟨hcall, hpath, hrest⟩ := Run.call_follows hserved
      refine ⟨_, ?_, hpath, hrest⟩
      rcases hstore : (store x : Except Failure Tags) with e | tags
      · rw [hstore] at hcall
        rw [verdict_of_refused hstore]
        exact Run.bind_failed hcall
      · rw [hstore] at hcall
        rw [verdict_of_told hstore]
        refine (Run.bind_ok hcall).trans ?_
        rw [← isClusterOf_eq]
        split <;> rfl

/-- A search ends with the first decision of the looks at the whole listing. -/
theorem run_looks (s : Search) {store : String → Except Failure Tags} {h : Host σ} {w : World σ}
    {p : Pages s.Item} (hserved : h.Answers w ((s.looks store p).flatMap Look.asked))
    (hrounds : p.length ≤ h.rounds) :
    ∃ w', s.run h w = (s.ending (Look.decision (s.looks store p)), w') ∧
      Path h w ((upTo Look.decides (s.looks store p)).flatMap Look.asked) w' := by
  obtain ⟨w', hrun, hpath⟩ :=
    Run.findInPages_looks s.follows_fetch (s.sees_examine store) hserved hrounds
  refine ⟨w', ?_, hpath⟩
  rw [looks, run_eq]
  rcases hd : Look.decision (p.looks s.asks (s.look store) none) with _ | e | arn <;>
    rw [hd] at hrun
  · exact Run.bind_ok hrun
  · exact Run.bind_failed hrun
  · exact Run.bind_ok hrun

/-! ### Looks and items -/

section looks

variable {store : String → Except Failure Tags} {s : Search}

theorem decides_look {x : s.Item} (hx : s.refusal? store x = none) :
    (s.look store x).decides = s.accepts store x := by
  rw [Look.decides, look, hx]
  cases s.accepts store x <;> rfl

/-- Where no request is refused, the decision is the first item that is searched for. -/
theorem decision_map_look {items : List s.Item}
    (htold : ∀ x ∈ items, s.refusal? store x = none) :
    Look.decision (items.map (s.look store)) =
      (items.find? (s.accepts store)).map fun x => .ok (s.arn x) := by
  induction items with
  | nil => rfl
  | cons x items ih =>
      obtain ⟨hx, hitems⟩ := List.forall_mem_cons.1 htold
      have hverdict : (s.look store x).verdict =
          if s.accepts store x then some (.ok (s.arn x)) else none := by
        simp only [look, hx]
      rw [List.map_cons, List.find?_cons]
      cases hfound : s.accepts store x with
      | true => exact Look.decision_cons_of_some (by rw [hverdict, hfound]; rfl)
      | false =>
          rw [Look.decision_cons_of_none (by rw [hverdict, hfound]; rfl)]
          exact ih hitems

/-- The look at an item ends the search with a failure where the request about it is refused. -/
theorem faithful_look (x : s.Item) : (s.look store x).Faithful := by
  cases s with
  | certificate listener environment =>
      refine ⟨.inl rfl, fun e => ⟨fun hverdict => ?_, fun ⟨r, hr⟩ => by cases hr⟩⟩
      change (if x.isDefault then some (Except.ok x.arn) else none) = some (.error e) at hverdict
      split at hverdict <;> cases hverdict
  | cluster application environment =>
      refine ⟨.inr ⟨_, rfl⟩, fun e => ⟨fun hverdict => ?_, ?_⟩⟩
      · rcases hstore : store x with e' | tags
        · rw [verdict_of_refused hstore] at hverdict
          cases hverdict
          exact ⟨.listTagsForResource x, List.mem_singleton.2 (congrArg (Entry.call _) hstore.symm)⟩
        · rw [verdict_of_told hstore] at hverdict
          split at hverdict <;> cases hverdict
      · rintro ⟨r, hr⟩
        obtain ⟨rfl, hresult⟩ := Entry.call.inj (List.mem_singleton.1 hr)
        exact verdict_of_refused (eq_of_heq hresult).symm

/-- So does every look at the whole listing. -/
theorem faithful_looks (p : Pages s.Item) : ∀ l ∈ s.looks store p, l.Faithful := by
  refine p.faithful_looks (fun m x e => ?_) faithful_look none
  constructor
  · rintro ⟨r, hr⟩
    cases s <;> exact (Entry.call.inj hr).elim fun hr hx => by cases hr; exact eq_of_heq hx
  · rintro rfl
    cases s <;> exact ⟨_, rfl⟩

end looks

/-- What a search has come to, and what it has asked for, against the looks at the whole
listing. -/
structure EndsEarly (s : Search) (store : String → Except Failure Tags) (p : Pages s.Item)
    (o : Outcome String) (t : List Entry) : Prop where
  /-- It ends with the first find or refusal in the whole listing. -/
  ending : o = s.ending (Look.decision (s.looks store p))
  /-- It asks what is asked up to there. -/
  asked : t = (upTo Look.decides (s.looks store p)).flatMap Look.asked
  /-- The first request that is refused ends it, unless the find was in front of that. -/
  refused : ∀ front r e back,
    (s.looks store p).flatMap Look.asked = front ++ .call r (.error e) :: back →
    (∀ r e, Entry.call r (.error e) ∉ front) →
      (o = .failed e ∧ t = front ++ [.call r (.error e)]) ∨ ∃ arn, o = .ok arn ∧ t <+: front
  /-- Where nothing is refused, it comes to the first item of all pages that is searched for. -/
  plain : ∀ items, p.items = .ok items → (∀ x ∈ items, s.refusal? store x = none) →
    o = match items.find? (s.accepts store) with
      | some x => .ok (s.arn x)
      | none => .failed s.notFound
  /-- Then the items up to that one are asked about, in their order, -/
  about : ∀ items, p.items = .ok items → (∀ x ∈ items, s.refusal? store x = none) →
    t.filter isForTags = (upTo (s.accepts store) items).flatMap (s.asksAbout store)
  /-- and no page is asked for behind the page with that one. -/
  pages : ∀ items, p.items = .ok items → (∀ x ∈ items, s.refusal? store x = none) →
    t.filter (fun x => !isForTags x) = (p.asked s.asks none).take
      ((p.parts.takeWhile fun l => l.all fun x => !s.accepts store x).length + 1)

/-- **An early end changes nothing but what is asked behind it.** -/
theorem run_decided (s : Search) {store : String → Except Failure Tags} {h : Host σ}
    {w : World σ} {p : Pages s.Item}
    (hserved : h.Answers w ((s.looks store p).flatMap Look.asked))
    (hrounds : p.length ≤ h.rounds) :
    s.EndsEarly store p (s.run h w).1 ((s.run h w).2.since w) := by
  obtain ⟨w', hrun, hpath⟩ := s.run_looks hserved hrounds
  rw [hrun, hpath.since_eq]
  have hpage : ∀ m x, isForTags (s.asks m x) = false := fun m x => by cases s <;> rfl
  have hitem : ∀ x, ∀ y ∈ (s.look store x).asked, isForTags y = true := by
    intro x y hy
    cases s with
    | certificate listener environment => cases hy
    | cluster application environment => rw [List.mem_singleton.1 hy]; rfl
  constructor
  · rfl
  · rfl
  · intro front r e back hscript hfirst
    rcases Look.decision_of_refused (faithful_looks p) hscript hfirst with
      ⟨hdecision, hasked⟩ | ⟨arn, hdecision, hasked⟩
    · exact .inl ⟨by rw [hdecision]; rfl, hasked⟩
    · exact .inr ⟨arn, by rw [hdecision]; rfl, hasked⟩
  · intro items hitems htold
    rw [looks, Pages.decision_looks hitems, decision_map_look htold]
    cases items.find? (s.accepts store) <;> rfl
  · intro items hitems htold
    rw [looks, Pages.filter_looks hpage hitem hitems, upTo_map,
      upTo_congr fun x hx => decides_look (htold x hx), List.flatMap_map]
    rfl
  · intro items hitems htold
    exact Pages.filter_looks_pages (fun m x => by rw [hpage]; rfl)
      (fun x y hy => by rw [hitem x y hy]; rfl) hitems (fun x hx => decides_look (htold x hx)) none

/-- Clusters on three pages, of which one is empty, with a page behind them that is refused. -/
def clusters : Pages String :=
  .more ["idle"] "a" (.more [] "b" (.more ["live", "locked"] "c" (.refused (.ecs "throttled"))))

/-- The tags of these clusters; those of one of them may not be seen. -/
def clusterTags (arn : String) : Except Failure Tags :=
  if arn = "locked" then .error (.ecs "denied")
  else if arn = "live" then .ok ⟨[("aws:cloudformation:logical-id", "Cluster"),
    ("copilot-application", "app"), ("copilot-environment", "dev")], by decide⟩
  else .ok .empty

theorem run_decided_clusters :
    let s : Search := .cluster "app" "dev"
    let script := (s.looks clusterTags clusters).flatMap Look.asked
    let r := s.run (Host.scripted 4) ⟨script, 0, #[]⟩
    r.1 = .ok "live" ∧ r.2.since ⟨script, 0, #[]⟩ =
      [.call (.listClusters none) (.ok ⟨["idle"], some "a"⟩),
        .call (.listTagsForResource "idle") (clusterTags "idle"),
        .call (.listClusters (some "a")) (.ok ⟨[], some "b"⟩),
        .call (.listClusters (some "b")) (.ok ⟨["live", "locked"], some "c"⟩),
        .call (.listTagsForResource "live") (clusterTags "live")] := by
  intro s script r
  have hcalls : ∀ x ∈ script, ∃ q result, x = .call q result := by
    iterate 7 refine List.forall_mem_cons.2 ⟨⟨_, _, rfl⟩, ?_⟩
    exact List.forall_mem_nil _
  have hends := s.run_decided (Host.scripted_answers 4 hcalls 0 #[]) (by decide)
  exact ⟨hends.ending.trans (by rfl), hends.asked.trans (by rfl)⟩

end Search

end Cutover
