/-
**The rules of an account in memory.**

An account keeps rules and tags apart.  What matters about a listener is the list of its rules
with their tags, and creating and deleting rules are an append and a filter on that list.  As long
as the names for new rules are new, different rules of a listener keep different names and
different priorities.

Main definitions:

* `Cutover.InMemory.Account.listing` — the rules of a listener with their tags;
* `Cutover.Rule.Definition.rule` — the rule that is created from a definition;
* `Cutover.Rule.besides` — rules without those of some names;
* `Cutover.InMemory.Account.numberOf` — how many requests of a name were made;
* `Cutover.InMemory.Account.faultAt` — the fault that makes a request fail, if there is one;
* `Cutover.InMemory.Account.Later` — an account after further requests;
* `Cutover.InMemory.Account.Asked` — an account after requests that changed nothing;
* `Cutover.InMemory.Account.Spent`, `Cutover.InMemory.Account.NewName` — names that no new rule is
  given any more, and those that new rules are given;
* `Cutover.InMemory.Account.Orderly` — names and priorities tell the rules of a listener apart, and
  names for new rules are new;
* `Cutover.InMemory.smallAccount` — an account with one listener.

Main results:

* `Cutover.InMemory.Account.create_eq_ok`, `Cutover.InMemory.Account.delete_eq_ok` — what requests
  do to the listing;
* `Cutover.InMemory.Account.create_ok`, `Cutover.InMemory.Account.delete_ok` — when they succeed;
* `Cutover.InMemory.Account.Orderly.create`, `Cutover.InMemory.Account.Orderly.delete` — an orderly
  account stays orderly;
* `Cutover.InMemory.path_later`, `Cutover.InMemory.path_numberOf` — what holds along every path;
  `Cutover.InMemory.path_asked` — what holds along a path without changes.
-/
import Mathlib.Data.List.Nodup
import Mathlib.Data.List.Pairwise
import Cutover.Cloud.InMemory
import Cutover.Config.Platform
import Cutover.Proofs.Rule.Trace

set_option autoImplicit false

namespace Cutover

/-- The rule that is created from a definition under a name. -/
def Rule.Definition.rule (d : Rule.Definition) (arn : String) : ListenerRule :=
  ⟨arn, .number d.priority, d.conditions, d.httpHeaderName, [], d.actions, d.tags⟩

@[simp] theorem Rule.Definition.rule_arn (d : Rule.Definition) (arn : String) :
    (d.rule arn).arn = arn := rfl

@[simp] theorem Rule.Definition.rule_priority (d : Rule.Definition) (arn : String) :
    (d.rule arn).priority = .number d.priority := rfl

theorem Rule.Priority.toNat?_eq_some {p : Rule.Priority} {n : Nat} :
    p.toNat? = some n ↔ p = .number n := by
  cases p <;> simp [Rule.Priority.toNat?]

/-- The rules besides those of some names. -/
def Rule.besides (names : List String) (rules : List ListenerRule) : List ListenerRule :=
  rules.filter (fun r => r.arn ∉ names)

section Besides

open Rule

variable {names names' : List String} {rules rules' : List ListenerRule} {r : ListenerRule}

@[simp] theorem Rule.mem_besides : r ∈ besides names rules ↔ r ∈ rules ∧ r.arn ∉ names := by
  simp [besides]

@[simp] theorem Rule.besides_nil : besides [] rules = rules := by
  simp [besides]

@[simp] theorem Rule.besides_append :
    besides names (rules ++ rules') = besides names rules ++ besides names rules' := by
  simp [besides]

@[simp] theorem Rule.besides_besides :
    besides names (besides names' rules) = besides (names ++ names') rules := by
  simp [besides, List.filter_filter]

theorem Rule.besides_eq_self (h : ∀ r ∈ rules, r.arn ∉ names) : besides names rules = rules :=
  List.filter_eq_self.2 fun r hr => decide_eq_true (h r hr)

@[simp] theorem Rule.besides_reverse : besides names.reverse rules = besides names rules := by
  simp [besides]

theorem Rule.besides_comm : besides (names ++ names') rules = besides (names' ++ names) rules := by
  simp [besides, and_comm]

end Besides

namespace InMemory

namespace Account

variable {a b c : Account} {listener : String}

/-! ### The view of a listener -/

/-- The rule with the tags that the account has for it. -/
def tagged (a : Account) (r : ListenerRule) : ListenerRule :=
  { r with tags := (a.tags.find? r.arn).getD .empty }

/-- The rules of a listener with their tags. -/
def listing (a : Account) (listener : String) : List ListenerRule :=
  (a.rulesOf listener).map a.tagged

/-- The name of the rule that is created as the `n`-th, counted from zero. -/
def nameAt (a : Account) (n : Nat) : String := { a with created := n }.nextName

theorem nextName_eq (a : Account) : a.nextName = a.nameAt a.created := rfl

theorem nameAt_congr (h : b.names = a.names) : b.nameAt = a.nameAt := by
  funext n
  simp [nameAt, nextName, h]

theorem isTaken_iff {n : Nat} :
    a.isTaken listener n = true ↔ ∃ r ∈ a.listing listener, r.priority = .number n := by
  simp [isTaken, listing, tagged, Rule.Priority.toNat?_eq_some]

/-- A priority that is taken is refused. -/
theorem createRule_taken {d : Rule.Definition} (h : a.isTaken listener d.priority = true) :
    a.createRule listener d = (.error (.aws "CreateRule" (some "PriorityInUse")
      ("Priority '" ++ toString d.priority ++ "' is currently in use")), a) :=
  if_pos h

/-- Otherwise the rule is stored under the next name. -/
theorem createRule_free {d : Rule.Definition} (h : ¬ a.isTaken listener d.priority = true) :
    a.createRule listener d = (.ok (d.rule a.nextName),
      { a.addRule listener (d.rule a.nextName) with created := a.created + 1 }) :=
  if_neg h

/-! ### Answers -/

/-- The account after a request is counted. -/
def counted (a : Account) (r : Request) : Account :=
  { a with requests := a.requests.insert r.name ((a.requests.find? r.name).getD 0 + 1) }

/-- How many requests of a name were made. -/
def numberOf (a : Account) (name : String) : Nat := (a.requests.find? name).getD 0

/-- The fault that makes a request fail. -/
def faultAt (a : Account) (r : Request) : Option Fault :=
  a.faults.find? (fun f => f.request == r.name && f.number == a.numberOf r.name + 1)

theorem answer_fault {r : Request} {f : Fault} (hf : a.faultAt r = some f) :
    a.answer r = (.error f.failure, a.counted r) := by
  rw [faultAt, numberOf] at hf
  simp only [answer, hf]
  rfl

theorem answer_perform {r : Request} (hf : a.faultAt r = none) :
    a.answer r = (a.counted r).perform r := by
  rw [faultAt, numberOf] at hf
  simp only [answer, hf]
  rfl

theorem faultAt_of_faults (h : a.faults = []) (r : Request) : a.faultAt r = none := by
  simp [faultAt, h]

theorem faultAt_eq_none {r : Request}
    (h : ∀ f ∈ a.faults, f.request = r.name → f.number ≠ a.numberOf r.name + 1) :
    a.faultAt r = none := by
  refine List.find?_eq_none.2 fun f hf => ?_
  simpa using h f hf

/-! ### What every request keeps -/

/-- An account after further requests. -/
structure Later (a b : Account) : Prop where
  names : b.names = a.names
  faults : b.faults = a.faults
  created : a.created ≤ b.created

theorem Later.refl (a : Account) : Later a a := ⟨rfl, rfl, Nat.le_refl _⟩

theorem Later.trans (h : Later a b) (h' : Later b c) : Later a c :=
  ⟨h'.names.trans h.names, h'.faults.trans h.faults, h.created.trans h'.created⟩

theorem Later.nameAt (h : Later a b) : b.nameAt = a.nameAt := nameAt_congr h.names

/-- A request that neither creates nor deletes a rule leaves the account as it is. -/
theorem perform_eq {r : Request} (hcreate : ∀ l d, r ≠ .createRule l d)
    (hdelete : ∀ arn, r ≠ .deleteRule arn) : (a.perform r).2 = a := by
  cases r with
  | createRule l d => exact absurd rfl (hcreate l d)
  | deleteRule arn => exact absurd rfl (hdelete arn)
  | _ => rfl

theorem createRule_later (a : Account) (listener : String) (d : Rule.Definition) :
    Later a (a.createRule listener d).2 ∧
      (a.createRule listener d).2.requests = a.requests := by
  by_cases htaken : a.isTaken listener d.priority = true
  · rw [createRule_taken htaken]
    exact ⟨.refl a, rfl⟩
  · rw [createRule_free htaken]
    exact ⟨⟨rfl, rfl, Nat.le_succ _⟩, rfl⟩

theorem deleteRule_later (a : Account) (arn : String) :
    Later a (a.deleteRule arn).2 ∧ (a.deleteRule arn).2.requests = a.requests := by
  unfold deleteRule
  split
  · exact ⟨⟨rfl, rfl, Nat.le_refl _⟩, rfl⟩
  · exact ⟨.refl a, rfl⟩

theorem perform_later (a : Account) (r : Request) :
    Later a (a.perform r).2 ∧ (a.perform r).2.requests = a.requests := by
  by_cases hcreate : ∃ l d, r = .createRule l d
  · obtain ⟨l, d, rfl⟩ := hcreate
    exact a.createRule_later l d
  by_cases hdelete : ∃ arn, r = .deleteRule arn
  · obtain ⟨arn, rfl⟩ := hdelete
    exact a.deleteRule_later arn
  rw [perform_eq (fun l d h => hcreate ⟨l, d, h⟩) fun arn h => hdelete ⟨arn, h⟩]
  exact ⟨.refl a, rfl⟩

theorem counted_later (a : Account) (r : Request) : Later a (a.counted r) :=
  ⟨rfl, rfl, Nat.le_refl _⟩

theorem answer_later (a : Account) (r : Request) : Later a (a.answer r).2 := by
  cases hf : a.faultAt r with
  | none => rw [answer_perform hf]; exact (a.counted_later r).trans (perform_later _ r).1
  | some f => rw [answer_fault hf]; exact a.counted_later r

/-- Every request is counted, whatever its answer. -/
theorem answer_numberOf (a : Account) (r : Request) (name : String) :
    (a.answer r).2.numberOf name = a.numberOf name + if r.name = name then 1 else 0 := by
  have hrequests : (a.answer r).2.requests = (a.counted r).requests := by
    cases hf : a.faultAt r with
    | none => rw [answer_perform hf]; exact (perform_later _ r).2
    | some f => rw [answer_fault hf]
  rw [numberOf, hrequests]
  by_cases hname : name = r.name
  · simp [counted, numberOf, hname]
  · simp [counted, numberOf, hname, Ne.symm hname]

/-- Two accounts with the same rules, which give the same names to new ones. -/
structure Same (a b : Account) : Prop where
  rules : b.rules = a.rules
  tags : b.tags = a.tags
  names : b.names = a.names
  created : b.created = a.created

theorem Same.listing (h : Same a b) : b.listing = a.listing := by
  funext l
  have htagged : b.tagged = a.tagged := by
    funext r
    rw [tagged, tagged, h.tags]
  rw [Account.listing, Account.listing, rulesOf, rulesOf, h.rules, htagged]

/-- An account after requests that changed nothing: they are counted, and that is all. -/
def Asked (a b : Account) : Prop := ∃ counts, b = { a with requests := counts }

theorem Asked.refl (a : Account) : Asked a a := ⟨a.requests, rfl⟩

theorem Asked.trans (h : Asked a b) (h' : Asked b c) : Asked a c := by
  obtain ⟨_, rfl⟩ := h
  obtain ⟨counts, rfl⟩ := h'
  exact ⟨counts, rfl⟩

theorem Asked.same (h : Asked a b) : Same a b := by
  obtain ⟨_, rfl⟩ := h
  exact ⟨rfl, rfl, rfl, rfl⟩

theorem Asked.later (h : Asked a b) : Later a b := by
  obtain ⟨_, rfl⟩ := h
  exact ⟨rfl, rfl, Nat.le_refl _⟩

/-- A request that neither creates nor deletes a rule changes nothing. -/
theorem answer_asked {r : Request} {x : Except Failure r.Reply}
    (hr : (Entry.call r x).isMutation = false) : Asked a (a.answer r).2 := by
  have hperform : ((a.counted r).perform r).2 = a.counted r := by
    refine perform_eq ?_ ?_
    · rintro l d rfl
      cases hr
    · rintro arn rfl
      cases hr
  cases hf : a.faultAt r with
  | none => rw [answer_perform hf, hperform]; exact ⟨_, rfl⟩
  | some f => rw [answer_fault hf]; exact ⟨_, rfl⟩

/-! ### Creating a rule -/

theorem answer_taken {d : Rule.Definition} (hf : a.faultAt (.createRule listener d) = none)
    (htaken : a.isTaken listener d.priority = true) :
    a.answer (.createRule listener d) = (.error (.aws "CreateRule" (some "PriorityInUse")
      ("Priority '" ++ toString d.priority ++ "' is currently in use")),
        a.counted (.createRule listener d)) :=
  (answer_perform hf).trans (createRule_taken (a := a.counted _) htaken)

theorem answer_free {d : Rule.Definition} (hf : a.faultAt (.createRule listener d) = none)
    (htaken : ¬ a.isTaken listener d.priority = true) :
    a.answer (.createRule listener d) = (.ok (d.rule a.nextName),
      { (a.counted (.createRule listener d)).addRule listener (d.rule a.nextName) with
        created := a.created + 1 }) :=
  (answer_perform hf).trans (createRule_free (a := a.counted _) htaken)

/-- A rule is created under the next name if its priority is free and there is no fault. -/
theorem create_ok {d : Rule.Definition} (hf : a.faultAt (.createRule listener d) = none)
    (hfree : ∀ r ∈ a.listing listener, r.priority ≠ .number d.priority) :
    (a.answer (.createRule listener d)).1 = .ok (d.rule a.nextName) := by
  have htaken : ¬ a.isTaken listener d.priority = true := by
    rw [isTaken_iff]
    exact fun ⟨r, hr, hprio⟩ => hfree r hr hprio
  rw [answer_free hf htaken]

theorem create_inUse {d : Rule.Definition} (hf : a.faultAt (.createRule listener d) = none)
    (htaken : ∃ r ∈ a.listing listener, r.priority = .number d.priority) :
    ∃ e, (a.answer (.createRule listener d)).1 = .error e ∧ e.code? = some "PriorityInUse" := by
  rw [answer_taken hf (isTaken_iff.2 htaken)]
  exact ⟨_, rfl, rfl⟩

/-- A listener with one more rule. -/
theorem listing_addRule {r : ListenerRule} (hnew : ∀ x ∈ a.listing listener, x.arn ≠ r.arn) :
    (a.addRule listener r).listing listener = a.listing listener ++ [r] := by
  -- the tags of the new rule are stored under a name that no other rule has
  have hold : ∀ x ∈ a.rulesOf listener, (a.addRule listener r).tagged x = a.tagged x := by
    intro x hx
    have hne : x.arn ≠ r.arn := hnew (a.tagged x) (List.mem_map_of_mem hx)
    simp [tagged, addRule, hne]
  have hrules : (a.addRule listener r).rulesOf listener =
      a.rulesOf listener ++ [{ r with tags := .empty }] := by
    simp [addRule, rulesOf]
  rw [listing, hrules, List.map_append, List.map_congr_left hold]
  simp [listing, tagged, addRule]

/-- A rule that was created has the next name, and its priority was free. -/
theorem create_eq_ok {d : Rule.Definition} {r : ListenerRule}
    (hr : (a.answer (.createRule listener d)).1 = .ok r) :
    r = d.rule a.nextName ∧ (∀ x ∈ a.listing listener, x.priority ≠ .number d.priority) ∧
      (a.answer (.createRule listener d)).2.created = a.created + 1 ∧
      ((∀ x ∈ a.listing listener, x.arn ≠ a.nextName) →
        (a.answer (.createRule listener d)).2.listing listener = a.listing listener ++ [r]) := by
  cases hf : a.faultAt (.createRule listener d) with
  | some f => rw [answer_fault hf] at hr; cases hr
  | none =>
      by_cases htaken : a.isTaken listener d.priority = true
      · rw [answer_taken hf htaken] at hr
        cases hr
      · rw [answer_free hf htaken] at hr ⊢
        obtain rfl := Except.ok.inj hr
        exact ⟨rfl, fun x hx hprio => htaken (isTaken_iff.2 ⟨x, hx, hprio⟩), rfl,
          fun hnew => listing_addRule (a := a.counted _) hnew⟩

/-- A refused creation changes nothing. -/
theorem create_eq_error {d : Rule.Definition} {e : Failure}
    (he : (a.answer (.createRule listener d)).1 = .error e) :
    Asked a (a.answer (.createRule listener d)).2 := by
  cases hf : a.faultAt (.createRule listener d) with
  | some f => rw [answer_fault hf]; exact ⟨_, rfl⟩
  | none =>
      by_cases htaken : a.isTaken listener d.priority = true
      · rw [answer_taken hf htaken]
        exact ⟨_, rfl⟩
      · rw [answer_free hf htaken] at he
        cases he

/-! ### Deleting a rule -/

/-- Whether any listener has a rule of a name. -/
def hasRule (a : Account) (arn : String) : Bool :=
  a.rules.entries.any (fun e => e.2.any (fun r => r.arn == arn))

/-- The account without the rules of a name. -/
def without (a : Account) (arn : String) : Account :=
  { a with
    rules := a.rules.map (fun l => l.filter (fun r => r.arn != arn))
    tags := a.tags.erase arn }

theorem deleteRule_found {arn : String} (h : a.hasRule arn = true) :
    a.deleteRule arn = (.ok (), a.without arn) :=
  if_pos h

theorem deleteRule_missing {arn : String} (h : ¬ a.hasRule arn = true) :
    a.deleteRule arn = (.error (.aws "DeleteRule" (some "RuleNotFound")
      ("Rule '" ++ arn ++ "' not found")), a) :=
  if_neg h

theorem answer_found {arn : String} (hf : a.faultAt (.deleteRule arn) = none)
    (hfound : a.hasRule arn = true) :
    a.answer (.deleteRule arn) = (.ok (), (a.counted (.deleteRule arn)).without arn) :=
  (answer_perform hf).trans (deleteRule_found (a := a.counted _) hfound)

theorem answer_missing {arn : String} (hf : a.faultAt (.deleteRule arn) = none)
    (hfound : ¬ a.hasRule arn = true) :
    a.answer (.deleteRule arn) = (.error (.aws "DeleteRule" (some "RuleNotFound")
      ("Rule '" ++ arn ++ "' not found")), a.counted (.deleteRule arn)) :=
  (answer_perform hf).trans (deleteRule_missing (a := a.counted _) hfound)

theorem hasRule_of_listing {arn : String} (hx : ∃ x ∈ a.listing listener, x.arn = arn) :
    a.hasRule arn = true := by
  obtain ⟨x, hmem, harn⟩ := hx
  obtain ⟨r, hr, rfl⟩ := List.mem_map.1 hmem
  unfold rulesOf at hr
  cases hrules : a.rules.find? listener with
  | none => simp [hrules] at hr
  | some rules =>
      rw [hrules] at hr
      refine List.any_eq_true.2 ⟨_, Dict.mem_of_find? hrules, List.any_eq_true.2 ⟨r, hr, ?_⟩⟩
      exact beq_iff_eq.2 harn

/-- A rule of a listener is deleted if there is no fault. -/
theorem delete_ok {arn : String} (hf : a.faultAt (.deleteRule arn) = none)
    (hr : ∃ r ∈ a.listing listener, r.arn = arn) :
    (a.answer (.deleteRule arn)).1 = .ok () := by
  rw [answer_found hf (hasRule_of_listing hr)]

/-- A listener without the rules of a name. -/
theorem listing_without (a : Account) (arn listener : String) :
    (a.without arn).listing listener =
      Rule.besides [arn] (a.listing listener) := by
  have hrules : (a.without arn).rulesOf listener =
      Rule.besides [arn] (a.rulesOf listener) := by
    rw [rulesOf, rulesOf, without, Dict.find?_map]
    cases a.rules.find? listener with
    | none => rfl
    | some rules => exact List.filter_congr fun r _ => by by_cases h : r.arn = arn <;> simp [h]
  rw [listing, listing, hrules, Rule.besides, Rule.besides, List.filter_map]
  refine List.map_congr_left fun r hr => ?_
  have hne : r.arn ≠ arn := by simpa using (List.mem_filter.1 hr).2
  simp [tagged, without, hne]

/-- After a deletion, every listener has the rules of other names. -/
theorem delete_eq_ok {arn : String} (hr : (a.answer (.deleteRule arn)).1 = .ok ())
    (listener : String) :
    (a.answer (.deleteRule arn)).2.listing listener =
      Rule.besides [arn] (a.listing listener) ∧
    (a.answer (.deleteRule arn)).2.created = a.created := by
  cases hf : a.faultAt (.deleteRule arn) with
  | some f => rw [answer_fault hf] at hr; cases hr
  | none =>
      by_cases hfound : a.hasRule arn = true
      · rw [answer_found hf hfound]
        exact ⟨listing_without (a.counted _) arn listener, rfl⟩
      · rw [answer_missing hf hfound] at hr
        cases hr

/-- A refused deletion changes nothing. -/
theorem delete_eq_error {arn : String} {e : Failure}
    (he : (a.answer (.deleteRule arn)).1 = .error e) :
    Asked a (a.answer (.deleteRule arn)).2 := by
  cases hf : a.faultAt (.deleteRule arn) with
  | some f => rw [answer_fault hf]; exact ⟨_, rfl⟩
  | none =>
      by_cases hfound : a.hasRule arn = true
      · rw [answer_found hf hfound] at he
        cases he
      · rw [answer_missing hf hfound]
        exact ⟨_, rfl⟩

/-! ### Orderly accounts -/

/-- A name that no new rule is given any more. -/
def Spent (a : Account) (arn : String) : Prop := ∀ n, a.created ≤ n → a.nameAt n ≠ arn

theorem Spent.later {arn : String} (hs : a.Spent arn) (h : Later a b) : b.Spent arn := by
  intro n hn
  rw [h.nameAt]
  exact hs n (h.created.trans hn)

/-- A name that a new rule is given, now or later. -/
def NewName (a : Account) (arn : String) : Prop := ∃ n, a.created ≤ n ∧ arn = a.nameAt n

theorem NewName.ne {arn arn' : String} (h : a.NewName arn) (hs : a.Spent arn') : arn ≠ arn' := by
  obtain ⟨n, hn, rfl⟩ := h
  exact hs n hn

theorem Later.newName (h : Later a b) : a.NewName b.nextName :=
  ⟨b.created, h.created, by rw [nextName_eq, h.nameAt]⟩

/-- Names and numbers tell the rules of a listener apart, and names for new rules are new. -/
structure Orderly (a : Account) (listener : String) : Prop where
  arns : ((a.listing listener).map (·.arn)).Nodup
  priorities : ((a.listing listener).filterMap (·.priority.toNat?)).Nodup
  spent : ∀ r ∈ a.listing listener, a.Spent r.arn
  distinct : ∀ m n, a.created ≤ m → a.created ≤ n → a.nameAt m = a.nameAt n → m = n

namespace Orderly

theorem eq_of_arn (h : a.Orderly listener) {r r' : ListenerRule} (hr : r ∈ a.listing listener)
    (hr' : r' ∈ a.listing listener) (harn : r.arn = r'.arn) : r = r' :=
  List.inj_on_of_nodup_map h.arns hr hr' harn

theorem eq_of_priority (h : a.Orderly listener) {r r' : ListenerRule} {n : Nat}
    (hr : r ∈ a.listing listener) (hr' : r' ∈ a.listing listener) (hprio : r.priority = .number n)
    (hprio' : r'.priority = .number n) : r = r' := by
  have hpair := List.pairwise_filterMap.1 h.priorities
  by_contra hne
  have : Std.Symm fun x y : ListenerRule => ∀ m, x.priority.toNat? = some m →
      ∀ m', y.priority.toNat? = some m' → m ≠ m' :=
    ⟨fun x y hxy m hm m' hm' heq => hxy m' hm' m hm heq.symm⟩
  exact hpair.forall hr hr' hne n (Rule.Priority.toNat?_eq_some.2 hprio) n
    (Rule.Priority.toNat?_eq_some.2 hprio') rfl

theorem nextName_new (h : a.Orderly listener) : ∀ r ∈ a.listing listener, r.arn ≠ a.nextName :=
  fun r hr harn => h.spent r hr a.created (Nat.le_refl _) harn.symm

theorem same (h : a.Orderly listener) (hs : Same a b) : b.Orderly listener := by
  have hname : b.nameAt = a.nameAt := nameAt_congr hs.names
  refine ⟨by rw [hs.listing]; exact h.arns, by rw [hs.listing]; exact h.priorities, ?_, ?_⟩
  · intro r hr n hn
    rw [hs.listing] at hr
    rw [hname]
    exact h.spent r hr n (hs.created ▸ hn)
  · intro m n hm hn
    rw [hname]
    exact h.distinct m n (hs.created ▸ hm) (hs.created ▸ hn)

/-- A created rule stands behind the others. -/
theorem listing_create (h : a.Orderly listener) {d : Rule.Definition} {r : ListenerRule}
    (hr : (a.answer (.createRule listener d)).1 = .ok r) :
    (a.answer (.createRule listener d)).2.listing listener = a.listing listener ++ [r] :=
  (create_eq_ok hr).2.2.2 h.nextName_new

/-- An orderly account stays orderly when a rule is created. -/
theorem create (h : a.Orderly listener) {d : Rule.Definition} {r : ListenerRule}
    (hr : (a.answer (.createRule listener d)).1 = .ok r) :
    (a.answer (.createRule listener d)).2.Orderly listener := by
  obtain ⟨rfl, hfree, hcreated, -⟩ := create_eq_ok hr
  have hlater := answer_later a (.createRule listener d)
  refine ⟨?_, ?_, ?_, ?_⟩
  · rw [h.listing_create hr, List.map_append]
    refine List.nodup_append.2 ⟨h.arns, by simp, fun arn harn arn' harn' heq => ?_⟩
    obtain ⟨x, hx, rfl⟩ := List.mem_map.1 harn
    exact h.nextName_new x hx (by simpa [heq] using harn')
  · rw [h.listing_create hr, List.filterMap_append]
    refine List.nodup_append.2
      ⟨h.priorities, by simp [Rule.Priority.toNat?], fun n hn m hm heq => ?_⟩
    obtain ⟨x, hx, hprio⟩ := List.mem_filterMap.1 hn
    have hm : m = d.priority := by simpa [Rule.Priority.toNat?] using hm
    rw [heq, hm] at hprio
    exact hfree x hx (Rule.Priority.toNat?_eq_some.1 hprio)
  · intro x hx
    rw [h.listing_create hr] at hx
    rcases List.mem_append.1 hx with hx | hx
    · exact (h.spent x hx).later hlater
    · intro n hn harn
      rw [hlater.nameAt, List.mem_singleton.1 hx] at harn
      rw [hcreated] at hn
      have := h.distinct n a.created (by omega) (Nat.le_refl _) harn
      omega
  · intro m n hm hn
    rw [hlater.nameAt]
    exact h.distinct m n (hlater.created.trans hm) (hlater.created.trans hn)

/-- An orderly account stays orderly when a rule is deleted. -/
theorem delete (h : a.Orderly listener) {arn : String}
    (hr : (a.answer (.deleteRule arn)).1 = .ok ()) :
    (a.answer (.deleteRule arn)).2.Orderly listener := by
  obtain ⟨hlisting, -⟩ := delete_eq_ok hr listener
  have hlater := answer_later a (.deleteRule arn)
  refine ⟨?_, ?_, fun x hx => ?_, fun m n hm hn => ?_⟩
  · rw [hlisting]
    exact h.arns.sublist (List.filter_sublist.map _)
  · rw [hlisting]
    exact h.priorities.sublist (List.filter_sublist.filterMap _)
  · rw [hlisting] at hx
    exact (h.spent x (List.mem_filter.1 hx).1).later hlater
  · rw [hlater.nameAt]
    exact h.distinct m n (hlater.created.trans hm) (hlater.created.trans hn)

end Orderly

end Account

/-! ### Along a path -/

section Paths

open InMemory.Account

variable {rounds : Nat} {w w' : World Account} {t : List Entry}

theorem path_later (p : Path (host rounds) w t w') : Later w.state w'.state := by
  induction p with
  | refl => exact .refl _
  | call r _ ih => exact ih.trans (answer_later _ r)
  | report _ _ ih | sleep _ _ ih => exact ih

/-- How many requests of a name stand among entries. -/
def callsIn (name : String) (t : List Entry) : Nat :=
  (requestsIn t).countP (fun r => r.name = name)

@[simp] theorem callsIn_append (name : String) (t t' : List Entry) :
    callsIn name (t ++ t') = callsIn name t + callsIn name t' := by
  simp [callsIn]

@[simp] theorem callsIn_report (name : String) (line : ReportLine) (t : List Entry) :
    callsIn name (.report line :: t) = callsIn name t := rfl

/-- The requests of a path are counted. -/
theorem path_numberOf (p : Path (host rounds) w t w') (name : String) :
    w'.state.numberOf name = w.state.numberOf name + callsIn name t := by
  induction p with
  | refl => rfl
  | call r _ ih =>
      rw [callsIn_append, ← Nat.add_assoc, ← ih]
      exact (answer_numberOf _ r name).trans (by simp [callsIn, List.countP_singleton])
  | report _ _ ih =>
      rw [callsIn_append, ← Nat.add_assoc, ← ih]
      rfl
  | sleep _ _ ih => exact ih

/-- A path without creations and deletions changes nothing. -/
theorem path_asked (p : Path (host rounds) w t w') (ht : ∀ x ∈ t, x.isMutation = false) :
    Asked w.state w'.state := by
  induction p with
  | refl => exact .refl _
  | call r _ ih =>
      exact (ih fun x hx => ht x (List.mem_append_left _ hx)).trans
        (answer_asked (ht _ (List.mem_append_right _ (List.mem_singleton.2 rfl))))
  | report _ _ ih => exact ih fun x hx => ht x (List.mem_append_left _ hx)
  | sleep _ _ ih => exact ih ht

end Paths

/-! ### A small account -/

/-- A configuration with one environment in some mode. -/
def smallConfig (mode : DeploymentMode) : PlatformConfig :=
  ⟨"app", .ofList [("dev", ⟨mode, none, none, none⟩)]⟩

/-- An account with one listener.  It has a rule of the maintenance page, a copilot rule, a platform
rule where the one for the copilot rule is planned, and another platform rule. -/
def smallAccount (faults : List Fault) : Account where
  loadBalancers := ["balancer"]
  listeners := .ofList [("balancer", [⟨"https", some "HTTPS"⟩])]
  certificates := .empty
  rules := .ofList [("https",
    [⟨"page", .number 1, .empty, none, [], [.fixedResponse "503" none none none], .empty⟩,
      ⟨"old", .number 10000, .empty, none, [], [.forwardTo "platform"], .empty⟩,
      ⟨"stray", .number 30000, .empty, none, [], [.forwardTo "platform"], .empty⟩,
      ⟨"copilot-rule", .number 48000, .empty, none, [], [.forwardTo "copilot"], .empty⟩])]
  targetGroups :=
    [⟨"copilot", "copilot", ⟨none, none, none, none, none, none⟩, .empty⟩,
      ⟨"platform", "platform", ⟨none, none, none, none, none, none⟩, .empty⟩]
  tags := .ofList
    [("balancer", .ofList [("copilot-application", "app"), ("copilot-environment", "dev"),
        ("managed-by", "DBT Platform - Terraform")]),
      ("page", .ofList [("name", "MaintenancePage")]),
      ("old", .ofList [("managed-by", "DBT Platform")]),
      ("stray", .ofList [("managed-by", "DBT Platform")]),
      ("copilot", .ofList [("copilot-service", "web")]),
      ("platform", .ofList [("application", "app"), ("environment", "dev"), ("service", "web"),
        ("managed-by", "DBT Platform - Service Terraform")])]
  pageSizes := .empty
  faults := faults
  names := []
  created := 0
  requests := .empty

/-- The small account in front of a run. -/
def smallWorld (faults : List Fault) : World Account := ⟨smallAccount faults, 0, #[]⟩

/-- The second deletion is refused, when a planned rule has taken the place of another. -/
def secondDeletion : Fault := ⟨"delete_rule", 2, .aws "DeleteRule" (some "Throttling") "slow down"⟩

end InMemory

end Cutover
