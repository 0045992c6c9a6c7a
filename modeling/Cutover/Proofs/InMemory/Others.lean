/-
**The rules of other owners on an account in memory.**

A run creates rules with the mark of this automation, under names that were never given, and it
deletes platform rules and rules that it has created.  Each of these changes leaves the rules of
other owners as they are, and everything else that a run looks at.  So does every run, however it
ends: also one that is stopped halfway, and one whose changes could not be taken back.

Main definitions:

* `Cutover.Rule.others` — the rules of other owners;
* `Cutover.InMemory.Account.Tidy` — an orderly account on which names of rules are names of
  nothing else;
* `Cutover.InMemory.Kept` — what the changes of runs keep of an account;
* `Cutover.InMemory.Account.MayAsk` — the requests that keep it.

Main results:

* `Cutover.InMemory.Kept.answer` — one such request keeps it;
* `Cutover.InMemory.path_kept` — so does a path of such requests;
* `Cutover.InMemory.update_kept` — **every run keeps it, however it ends**.
-/
import Cutover.Proofs.InMemory.Lookup

set_option autoImplicit false

namespace Cutover

/-- The rules of other owners. -/
def Rule.others (rules : List ListenerRule) : List ListenerRule :=
  rules.filter (fun r => r.owner ≠ .platform)

section Others

open Rule

variable {names : List String} {rules rules' : List ListenerRule}

@[simp] theorem Rule.others_append : others (rules ++ rules') = others rules ++ others rules' := by
  simp [others]

@[simp] theorem Rule.others_others : others (others rules) = others rules := by
  simp [others]

theorem Rule.others_eq_nil_iff : others rules = [] ↔ ∀ r ∈ rules, r.owner = .platform := by
  simp [others]

/-- Without some platform rules, the rules of other owners are the same. -/
theorem Rule.others_besides (h : ∀ r ∈ rules, r.arn ∈ names → r.owner = .platform) :
    others (besides names rules) = others rules := by
  rw [others, besides, List.filter_filter]
  refine List.filter_congr fun r hr => ?_
  by_cases howner : r.owner = .platform
  · simp [howner]
  · have hnot : r.arn ∉ names := fun hmem => howner (h r hr hmem)
    simp [howner, hnot]

end Others

namespace InMemory

open Rule InMemory.Account

variable {config : PlatformConfig} {environment : String} {rounds : Nat} {listener : String}
  {w w' : World Account} {t : List Entry} {a b c : Account} {o : Outcome Changes}

namespace Account

/-- An orderly account on which load balancers and target groups do not have names of rules, and
new rules are not given their names. -/
structure Tidy (a : Account) (listener : String) : Prop where
  orderly : a.Orderly listener
  spent : ∀ arn ∈ a.resources, a.Spent arn
  apart : ∀ arn ∈ a.resources, ∀ r ∈ a.listing listener, r.arn ≠ arn

/-- A name that a run may delete: that of a platform rule, or one for new rules. -/
def Owns (a : Account) (listener arn : String) : Prop :=
  a.NewName arn ∨ ∃ r ∈ a.listing listener, r.owner = .platform ∧ r.arn = arn

/-- A request that a run from an account on may make for a listener. -/
def MayAsk (a : Account) (listener : String) : Request → Prop
  | .createRule l d => l = listener ∧ d.IsOwn
  | .deleteRule arn => a.Owns listener arn
  | _ => True

theorem Alike.resources (h : Alike a b) : b.resources = a.resources := by
  rw [Account.resources, Account.resources, h.loadBalancers, h.targetGroups]

theorem Alike.trans (h : Alike a b) (h' : Alike b c) : Alike a c :=
  ⟨h'.loadBalancers.trans h.loadBalancers, h'.listeners.trans h.listeners,
    h'.targetGroups.trans h.targetGroups,
    fun arn harn => (h'.tags arn (h.resources ▸ harn)).trans (h.tags arn harn)⟩

theorem Asked.alike (h : Asked a b) : Alike a b := by
  obtain ⟨_, rfl⟩ := h
  exact ⟨rfl, rfl, rfl, fun _ _ => rfl⟩

/-- A created rule has its tags under its own name. -/
theorem create_alike {d : Definition} {r : ListenerRule}
    (hr : (a.answer (.createRule listener d)).1 = .ok r) (hnew : a.nextName ∉ a.resources) :
    Alike a (a.answer (.createRule listener d)).2 := by
  cases hf : a.faultAt (.createRule listener d) with
  | some f => rw [answer_fault hf] at hr; cases hr
  | none =>
      by_cases htaken : a.isTaken listener d.priority = true
      · rw [answer_taken hf htaken] at hr
        cases hr
      · rw [answer_free hf htaken]
        refine ⟨rfl, rfl, rfl, fun arn harn => ?_⟩
        have hne : arn ≠ a.nextName := fun heq => hnew (heq ▸ harn)
        simp [addRule, counted, hne]

/-- A deleted rule takes only its own tags with it. -/
theorem delete_alike {arn : String} (hr : (a.answer (.deleteRule arn)).1 = .ok ())
    (hnot : arn ∉ a.resources) : Alike a (a.answer (.deleteRule arn)).2 := by
  cases hf : a.faultAt (.deleteRule arn) with
  | some f => rw [answer_fault hf] at hr; cases hr
  | none =>
      by_cases hfound : a.hasRule arn = true
      · rw [answer_found hf hfound]
        refine ⟨rfl, rfl, rfl, fun arn' harn' => ?_⟩
        have hne : arn' ≠ arn := fun heq => hnot (heq ▸ harn')
        simp [without, counted, hne]
      · rw [answer_missing hf hfound] at hr
        cases hr

end Account

/-! ### What is kept -/

/-- What the changes of runs keep of an account: it is still tidy, the rules of other owners are as
they were, every rule that was not there has the mark of this automation and a new name, and
besides rules the same is found. -/
structure Kept (listener : String) (a b : Account) : Prop where
  tidy : b.Tidy listener
  later : Later a b
  others : others (b.listing listener) = others (a.listing listener)
  fresh : ∀ r ∈ b.listing listener, r ∈ a.listing listener ∨
    a.NewName r.arn ∧ ∃ d : Definition, d.IsOwn ∧ r = d.rule r.arn
  alike : Alike a b

namespace Kept

theorem refl (h : a.Tidy listener) : Kept listener a a :=
  ⟨h, .refl a, rfl, fun _ hr => .inl hr, (Asked.refl a).alike⟩

theorem trans (h : Kept listener a b) (h' : Kept listener b c) : Kept listener a c := by
  refine ⟨h'.tidy, h.later.trans h'.later, h'.others.trans h.others, fun r hr => ?_,
    h.alike.trans h'.alike⟩
  rcases h'.fresh r hr with hr | ⟨⟨n, hn, harn⟩, hrule⟩
  · exact h.fresh r hr
  · rw [h.later.nameAt] at harn
    exact .inr ⟨⟨n, h.later.created.trans hn, harn⟩, hrule⟩

/-- A rule with a name for new rules is a platform rule. -/
theorem owner (h : Kept listener a b) (hord : a.Orderly listener) {r : ListenerRule}
    (hr : r ∈ b.listing listener) (hnew : a.NewName r.arn) : r.owner = .platform := by
  rcases h.fresh r hr with hold | ⟨-, d, hd, hrule⟩
  · exact absurd rfl (hnew.ne (hord.spent r hold))
  · rw [hrule]
    exact hd.owner r.arn

/-- If all platform rules have numbers, then they still have. -/
theorem numbered (h : Kept listener a b)
    (hnumber : ∀ r ∈ a.listing listener, r.owner = .platform → ∃ n, r.priority = .number n) :
    ∀ r ∈ b.listing listener, r.owner = .platform → ∃ n, r.priority = .number n := by
  intro r hr howner
  rcases h.fresh r hr with hold | ⟨-, d, -, hrule⟩
  · exact hnumber r hold howner
  · exact ⟨d.priority, by rw [hrule]; rfl⟩

/-- Requests that change nothing. -/
theorem asked (h : Kept listener a b) (hasked : Asked b c) : Kept listener a c := by
  have hlisting := congrFun hasked.same.listing listener
  refine ⟨⟨h.tidy.orderly.same hasked.same, ?_, ?_⟩, h.later.trans hasked.later, ?_, ?_,
    h.alike.trans hasked.alike⟩
  · intro arn harn
    exact (h.tidy.spent arn (hasked.alike.resources ▸ harn)).later hasked.later
  · rw [hlisting, hasked.alike.resources]
    exact h.tidy.apart
  · rw [hlisting]
    exact h.others
  · rw [hlisting]
    exact h.fresh

theorem created (h : Kept listener a b) {d : Definition} (hd : d.IsOwn) {r : ListenerRule}
    (hr : (b.answer (.createRule listener d)).1 = .ok r) :
    Kept listener a (b.answer (.createRule listener d)).2 := by
  have hlater := answer_later b (.createRule listener d)
  have hlisting := h.tidy.orderly.listing_create hr
  have hnew : b.nextName ∉ b.resources := fun hmem =>
    h.tidy.spent _ hmem b.created (Nat.le_refl _) rfl
  have halike := create_alike hr hnew
  obtain ⟨rfl, -, -, -⟩ := create_eq_ok hr
  refine ⟨⟨h.tidy.orderly.create hr, ?_, ?_⟩, h.later.trans hlater, ?_, ?_, h.alike.trans halike⟩
  · intro arn harn
    exact (h.tidy.spent arn (halike.resources ▸ harn)).later hlater
  · intro arn harn r hr'
    rw [halike.resources] at harn
    rw [hlisting] at hr'
    rcases List.mem_append.1 hr' with hr' | hr'
    · exact h.tidy.apart arn harn r hr'
    · rw [List.mem_singleton.1 hr']
      rintro rfl
      exact hnew harn
  · have hnone : Rule.others [d.rule b.nextName] = [] :=
      others_eq_nil_iff.2 (by simpa using hd.owner b.nextName)
    rw [hlisting, others_append, hnone, List.append_nil]
    exact h.others
  · intro r hr'
    rw [hlisting] at hr'
    rcases List.mem_append.1 hr' with hr' | hr'
    · exact h.fresh r hr'
    · rw [List.mem_singleton.1 hr']
      exact .inr ⟨h.later.newName, d, hd, rfl⟩

theorem deleted (h : Kept listener a b) (ha : a.Tidy listener) {arn : String}
    (howns : a.Owns listener arn) (hr : (b.answer (.deleteRule arn)).1 = .ok ()) :
    Kept listener a (b.answer (.deleteRule arn)).2 := by
  have hlater := answer_later b (.deleteRule arn)
  obtain ⟨hlisting, -⟩ := delete_eq_ok hr listener
  have hnot : arn ∉ b.resources := by
    rw [h.alike.resources]
    intro hmem
    rcases howns with hnew | ⟨r, hold, -, rfl⟩
    · exact hnew.ne (ha.spent arn hmem) rfl
    · exact ha.apart r.arn hmem r hold rfl
  have halike := delete_alike hr hnot
  -- whoever has the name now is a platform rule: a new one, or the one that had it before
  have howner : ∀ r ∈ b.listing listener, r.arn ∈ [arn] → r.owner = .platform := by
    intro r hr' harn
    obtain rfl := List.mem_singleton.1 harn
    rcases howns with hnew | ⟨r', hr'', howner, heq⟩
    · exact h.owner ha.orderly hr' hnew
    · rcases h.fresh r hr' with hold | ⟨hnew, -⟩
      · rw [ha.orderly.eq_of_arn hold hr'' heq.symm]
        exact howner
      · exact h.owner ha.orderly hr' hnew
  refine ⟨⟨h.tidy.orderly.delete hr, ?_, ?_⟩, h.later.trans hlater, ?_, ?_, h.alike.trans halike⟩
  · intro arn' harn'
    exact (h.tidy.spent arn' (halike.resources ▸ harn')).later hlater
  · intro arn' harn' r hr'
    rw [halike.resources] at harn'
    rw [hlisting] at hr'
    exact h.tidy.apart arn' harn' r (mem_besides.1 hr').1
  · rw [hlisting, others_besides howner]
    exact h.others
  · intro r hr'
    rw [hlisting] at hr'
    exact h.fresh r (mem_besides.1 hr').1

/-- A request that a run may make keeps what is kept, whether or not it is refused. -/
theorem answer (h : Kept listener a b) (ha : a.Tidy listener) {x : Request}
    (hx : a.MayAsk listener x) : Kept listener a (b.answer x).2 := by
  cases x with
  | createRule l d =>
      obtain ⟨rfl, hd⟩ := hx
      rcases hr : (b.answer (.createRule l d)).1 with e | r
      · exact h.asked (create_eq_error hr)
      · exact h.created hd hr
  | deleteRule arn =>
      rcases hr : (b.answer (.deleteRule arn)).1 with e | ⟨⟩
      · exact h.asked (delete_eq_error hr)
      · exact h.deleted ha hx hr
  | _ => exact h.asked (answer_asked (x := (b.answer _).1) rfl)

end Kept

/-! ### Along a path -/

/-- A path of requests that a run may make keeps what is kept. -/
theorem path_kept (p : Path (host rounds) w t w') (htidy : w.state.Tidy listener)
    (ht : ∀ x ∈ requestsIn t, w.state.MayAsk listener x) :
    Kept listener w.state w'.state := by
  induction p with
  | refl => exact .refl htidy
  | call r _ ih =>
      rw [requestsIn_append] at ht
      exact (ih fun x hx => ht x (List.mem_append_left _ hx)).answer htidy
        (ht r (List.mem_append_right _ (by simp)))
  | report _ _ ih =>
      rw [requestsIn_append] at ht
      exact ih fun x hx => ht x (List.mem_append_left _ hx)
  | sleep _ _ ih => exact ih ht

/-- The rules that are created on a path have names for new rules. -/
theorem path_createdIn (p : Path (host rounds) w t w') :
    ∀ arn ∈ createdIn t, w.state.NewName arn := by
  induction p with
  | refl => simp [createdIn]
  | @call t w' r hp ih =>
      intro arn harn
      rw [createdIn_append, List.mem_append] at harn
      rcases harn with harn | harn
      · exact ih arn harn
      · cases r with
        | createRule l d =>
            rcases hx : ((host rounds).answer (.createRule l d) w'.state).result with e | made
            · rw [hx] at harn
              cases harn
            · rw [hx] at harn
              obtain rfl : arn = ListenerRule.arn made := List.mem_singleton.1 harn
              obtain ⟨hrule, -⟩ := create_eq_ok hx
              rw [hrule]
              exact (path_later hp).newName
        | deleteRule arn' =>
            rcases hx : ((host rounds).answer (.deleteRule arn') w'.state).result with e | made
            all_goals
              rw [hx] at harn
              cases harn
        | _ =>
            rw [createdIn_singleton, Entry.change?_eq_none rfl] at harn
            cases harn
  | report line _ ih => simpa using ih
  | sleep _ _ ih => exact ih

/-! ### Whole runs -/

/-- **Every run keeps the rules of other owners, however it ends.** -/
theorem update_kept (hlistener : w.state.listenerOf config.application environment = some listener)
    (htidy : w.state.Tidy listener)
    (hrun : update config environment (host rounds) w = (o, w')) :
    Kept listener w.state w'.state := by
  obtain ⟨t, c⟩ := update_course config environment (host rounds) w
  rw [hrun] at c
  refine path_kept c.path htidy fun x hx => ?_
  rcases c.request_cases hx with ⟨hdelete, hcreate⟩ | ⟨q, w₁, hq, hmay⟩
  · cases x with
    | createRule l d => exact absurd rfl (hcreate l d)
    | deleteRule arn => exact absurd rfl (hdelete arn)
    | _ => trivial
  · obtain rfl := prepare_for hq hlistener
    obtain ⟨hrules, -, -⟩ := prepare_listing hq htidy.orderly
    cases hmay with
    | deletePlatform hr =>
        rw [mem_platform, hrules] at hr
        exact .inr ⟨_, hr.1, hr.2, rfl⟩
    | deleteCreated harn => exact .inl (path_createdIn c.path _ harn)
    | create hd => exact ⟨rfl, hd⟩

end InMemory

end Cutover
