/-
**A rule update without faults converges.**

Platform rules from earlier runs can stand anywhere: on priorities that are planned, between them,
or far from all of them.  A planned rule takes the place of one that has its priority, the rest go
afterwards, and the listener ends with the rules of other owners and the planned ones.  The only
thing that can be in the way is a planned priority that a rule of another owner has.

Main definitions:

* `Cutover.InMemory.IsHeld` — a rule of another owner has a planned priority;
* `Cutover.InMemory.Places` — a rule that was created for a planned one;
* `Cutover.InMemory.Placing` — a listener on which some planned rules are placed.

Main results:

* `Cutover.InMemory.createReplacing_placing`, `Cutover.InMemory.createAll_placing` — planned rules
  are placed up to the first that is held;
* `Cutover.InMemory.deleteRemaining_placing`, `Cutover.InMemory.deleteAll_placing` — the platform
  rules go;
* `Cutover.InMemory.update_places`, `Cutover.InMemory.update_stops`,
  `Cutover.InMemory.update_removes` — the three ends of a run;
* `Cutover.InMemory.update_converges` — **a run without faults converges**.
-/
import Cutover.Proofs.InMemory.Revertible
import Cutover.Proofs.Rule.Completion

set_option autoImplicit false

namespace Cutover.InMemory

open Rule InMemory.Account

variable {config : PlatformConfig} {environment : String} {rounds : Nat} {listener : String}
  {platform : List ListenerRule} {q : Prepared} {w w₁ w' : World Account} {a₀ a b : Account}
  {done : List Planned} {rule : Planned} {p : Progress}

/-- A rule of another owner has the priority of a planned rule. -/
def IsHeld (rules : List ListenerRule) (rule : Planned) : Prop :=
  ∃ r ∈ rules, r.owner ≠ .platform ∧ r.priority = .number rule.definition.priority

instance (rules : List ListenerRule) : DecidablePred (IsHeld rules) := fun rule =>
  inferInstanceAs (Decidable (∃ r ∈ rules, r.owner ≠ .platform ∧
    r.priority = .number rule.definition.priority))

/-- A rule with exactly what is planned, under a name that an account gives to a new rule. -/
def Places (a : Account) (rule : Planned) (r : ListenerRule) : Prop :=
  r = rule.definition.rule r.arn ∧ a.NewName r.arn

/-- An account without faults on which some planned rules are placed: behind the rules of the
first listing that are not deleted stand the planned rules, and what is deleted are platform
rules. -/
structure Placing (a₀ : Account) (listener : String) (done : List Planned) (p : Progress)
    (a : Account) : Prop where
  faults : a.faults = []
  orderly : a.Orderly listener
  later : Later a₀ a
  deleted_mem : ∀ d ∈ p.changes.deleted, d ∈ a₀.listing listener ∧ d.owner = .platform
  listing : ∃ made, a.listing listener =
    besides (p.changes.deleted.map (·.arn)) (a₀.listing listener) ++ made ∧
    List.Forall₂ (Places a₀) done made

namespace Placing

theorem start (hfaults : a₀.faults = []) (hord : a₀.Orderly listener) :
    Placing a₀ listener [] .start a₀ :=
  ⟨hfaults, hord, .refl a₀, by simp [Progress.start], [], by simp [Progress.start], .nil⟩

theorem noFault (h : Placing a₀ listener done p a) (r : Request) : a.faultAt r = none :=
  faultAt_of_faults h.faults r

/-- A refused request changes nothing. -/
theorem refused (h : Placing a₀ listener done p a) (hasked : Asked a b) :
    Placing a₀ listener done p b :=
  ⟨hasked.later.faults.trans h.faults, h.orderly.same hasked.same, h.later.trans hasked.later,
    h.deleted_mem, by rw [hasked.same.listing]; exact h.listing⟩

theorem created (h : Placing a₀ listener done p a) {r : ListenerRule}
    (hr : (a.answer (.createRule listener rule.definition)).1 = .ok r) :
    Placing a₀ listener (done ++ [rule]) (p.addCreated r)
      (a.answer (.createRule listener rule.definition)).2 := by
  have hlater := answer_later a (.createRule listener rule.definition)
  obtain ⟨made, hlisting, hplaces⟩ := h.listing
  refine ⟨hlater.faults.trans h.faults, h.orderly.create hr, h.later.trans hlater, h.deleted_mem,
    made ++ [r], ?_, ?_⟩
  · rw [h.orderly.listing_create hr, hlisting, List.append_assoc]
    rfl
  · obtain ⟨rfl, -, -, -⟩ := create_eq_ok hr
    exact List.rel_append hplaces (.cons ⟨rfl, h.later.newName⟩ .nil)

/-- A rule of the first listing that is not deleted is there. -/
theorem mem (h : Placing a₀ listener done p a) {r : ListenerRule} (hr : r ∈ a₀.listing listener)
    (hnot : r.arn ∉ p.changes.deleted.map (·.arn)) : r ∈ a.listing listener := by
  obtain ⟨made, hlisting, -⟩ := h.listing
  rw [hlisting]
  exact List.mem_append_left _ (mem_besides.2 ⟨hr, hnot⟩)

/-- A rule of the first listing that is not deleted goes when it is asked for. -/
theorem deleted (h : Placing a₀ listener done p a) (hord : a₀.Orderly listener) {r : ListenerRule}
    (hr : r ∈ a₀.listing listener) (howner : r.owner = .platform)
    (hnot : r.arn ∉ p.changes.deleted.map (·.arn)) :
    (a.answer (.deleteRule r.arn)).1 = .ok () ∧
      Placing a₀ listener done (p.addDeleted r) (a.answer (.deleteRule r.arn)).2 := by
  have hlater := answer_later a (.deleteRule r.arn)
  obtain ⟨made, hlisting, hplaces⟩ := h.listing
  have hok := delete_ok (h.noFault _) ⟨r, h.mem hr hnot, rfl⟩
  have hmade : besides [r.arn] made = made := by
    refine besides_eq_self fun x hx => ?_
    obtain ⟨_, -, -, hname⟩ := exists_original hplaces hx
    simpa using hname.ne (hord.spent r hr)
  refine ⟨hok, hlater.faults.trans h.faults, h.orderly.delete hok, h.later.trans hlater, ?_,
    made, ?_, hplaces⟩
  · intro d hd
    rcases List.mem_append.1 hd with hd | hd
    · exact h.deleted_mem d hd
    · rw [List.mem_singleton.1 hd]
      exact ⟨hr, howner⟩
  · rw [(delete_eq_ok hok listener).1, hlisting, besides_append, hmade, besides_besides,
      besides_comm]
    simp [Progress.addDeleted]

/-- A priority that no placed rule has is free, if every rule of the first listing that has it is
deleted. -/
theorem free (h : Placing a₀ listener done p a) {n : Nat}
    (hdone : ∀ x ∈ done, x.definition.priority ≠ n)
    (hfree : ∀ x ∈ a₀.listing listener, x.priority = .number n →
      x.arn ∈ p.changes.deleted.map (·.arn)) :
    ∀ x ∈ a.listing listener, x.priority ≠ .number n := by
  intro x hx hprio
  obtain ⟨made, hlisting, hplaces⟩ := h.listing
  rw [hlisting] at hx
  rcases List.mem_append.1 hx with hx | hx
  · obtain ⟨hmem, hnot⟩ := mem_besides.1 hx
    exact hnot (hfree x hmem hprio)
  · obtain ⟨y, hy, hrule, -⟩ := exists_original hplaces hx
    rw [hrule] at hprio
    exact hdone y hy (Priority.number.inj hprio)

end Placing

/-! ### Placing the planned rules -/

/-- What is deleted so far had the priorities of placed rules. -/
def Replaced (done : List Planned) (p : Progress) : Prop :=
  ∀ d ∈ p.changes.deleted, ∃ rule ∈ done, d.priority = .number rule.definition.priority

theorem Replaced.more (h : Replaced done p) (rule : Planned) : Replaced (done ++ [rule]) p := by
  intro d hd
  obtain ⟨x, hx, hprio⟩ := h d hd
  exact ⟨x, List.mem_append_left _ hx, hprio⟩

theorem mem_ownedBy {o : Owner} {rules : List ListenerRule} {r : ListenerRule} :
    r ∈ ownedBy o rules ↔ r ∈ rules ∧ r.owner = o := by
  simp [ownedBy]

/-- The platform rule with the priority of a planned one is the one to replace. -/
theorem holderOf_eq_some (hord : a₀.Orderly listener) {holder : ListenerRule} {n : Nat}
    (hholder : holder ∈ a₀.listing listener) (howner : holder.owner = .platform)
    (hprio : holder.priority = .number n) :
    holderOf (ownedBy .platform (a₀.listing listener)) n = some holder := by
  cases hh : holderOf (ownedBy .platform (a₀.listing listener)) n with
  | none => exact absurd hprio (holderOf_none hh holder (mem_ownedBy.2 ⟨hholder, howner⟩))
  | some x =>
      obtain ⟨hmem, hprio'⟩ := holderOf_some hh
      rw [hord.eq_of_priority (mem_ownedBy.1 hmem).1 hholder hprio' hprio]

/-- A planned rule that is held has no platform rule to replace. -/
theorem holderOf_eq_none (hord : a₀.Orderly listener) (hheld : IsHeld (a₀.listing listener) rule) :
    holderOf (ownedBy .platform (a₀.listing listener)) rule.definition.priority = none := by
  obtain ⟨x, hx, howner, hprio⟩ := hheld
  cases hh : holderOf (ownedBy .platform (a₀.listing listener)) rule.definition.priority with
  | none => rfl
  | some holder =>
      obtain ⟨hmem, hprio'⟩ := holderOf_some hh
      obtain ⟨hmem, howner'⟩ := mem_ownedBy.1 hmem
      rw [hord.eq_of_priority hx hmem hprio hprio'] at howner
      exact absurd howner' howner

/-- A planned rule whose priority is free is placed at once. -/
theorem createReplacing_free (h : Placing a₀ listener done p w.state)
    (hnew : ∀ x ∈ done, x.definition.priority ≠ rule.definition.priority)
    (hfree : ∀ x ∈ a₀.listing listener, x.priority ≠ .number rule.definition.priority) :
    ∃ p' w', createReplacing listener platform rule p (host rounds) w = (.ok (p', none), w') ∧
      Placing a₀ listener (done ++ [rule]) p' w'.state ∧
      p'.changes.deleted = p.changes.deleted := by
  have hok := create_ok (h.noFault _) (h.free hnew fun x hx hprio => absurd hprio (hfree x hx))
  exact ⟨_, _, createReplacing_created (create_made hok), h.created hok, rfl⟩

/-- A platform rule with the priority of a planned one makes way for it. -/
theorem createReplacing_replaces (hord : a₀.Orderly listener)
    (h : Placing a₀ listener done p w.state) (hreplaced : Replaced done p)
    (hnew : ∀ x ∈ done, x.definition.priority ≠ rule.definition.priority) {holder : ListenerRule}
    (hholder : holder ∈ a₀.listing listener) (howner : holder.owner = .platform)
    (hprio : holder.priority = .number rule.definition.priority) :
    ∃ p' w', createReplacing listener (ownedBy .platform (a₀.listing listener)) rule p
        (host rounds) w = (.ok (p', none), w') ∧
      Placing a₀ listener (done ++ [rule]) p' w'.state ∧
      p'.changes.deleted = p.changes.deleted ++ [holder] := by
  -- the holder was not deleted, since what was deleted had priorities of placed rules
  have hnot : holder.arn ∉ p.changes.deleted.map (·.arn) := by
    intro harn
    obtain ⟨d, hd, heq⟩ := List.mem_map.1 harn
    obtain ⟨x, hx, hdprio⟩ := hreplaced d hd
    rw [hord.eq_of_arn (h.deleted_mem d hd).1 hholder heq, hprio] at hdprio
    exact hnew x hx (Priority.number.inj hdprio).symm
  obtain ⟨e, he, (hcode : e.code? = some priorityInUseCode)⟩ :=
    create_inUse (h.noFault _) ⟨holder, h.mem hholder hnot, hprio⟩
  have hrefused := h.refused (create_eq_error he)
  obtain ⟨hdeleted, hwithout⟩ := hrefused.deleted hord hholder howner hnot
  have hfree := hwithout.free hnew fun x hx hxprio => by
    rw [hord.eq_of_priority hx hholder hxprio hprio]
    simp [Progress.addDeleted]
  have hmade := create_ok (hwithout.noFault _) hfree
  refine ⟨_, ((w.after (host rounds) (.createRule listener rule.definition)).after (host rounds)
    (.deleteRule holder.arn)).after (host rounds) (.createRule listener rule.definition), ?_,
    hwithout.created hmade, rfl⟩
  rw [createReplacing_refused (create_refused he), if_pos hcode,
    holderOf_eq_some hord hholder howner hprio]
  exact (andThen_ok (delete_made hdeleted)).trans (create_made hmade)

/-- A planned rule that is held stops the run. -/
theorem createReplacing_held (hord : a₀.Orderly listener)
    (h : Placing a₀ listener done p w.state) (hheld : IsHeld (a₀.listing listener) rule) :
    ∃ w', createReplacing listener (ownedBy .platform (a₀.listing listener)) rule p
      (host rounds) w = (.ok (p, some (.priorityInUse rule.definition.priority)), w') := by
  obtain ⟨x, hx, howner, hprio⟩ := hheld
  have hnot : x.arn ∉ p.changes.deleted.map (·.arn) := by
    intro harn
    obtain ⟨d, hd, heq⟩ := List.mem_map.1 harn
    rw [← hord.eq_of_arn (h.deleted_mem d hd).1 hx heq] at howner
    exact howner (h.deleted_mem d hd).2
  obtain ⟨e, he, (hcode : e.code? = some priorityInUseCode)⟩ :=
    create_inUse (h.noFault _) ⟨x, h.mem hx hnot, hprio⟩
  refine ⟨w.after (host rounds) (.createRule listener rule.definition), ?_⟩
  rw [createReplacing_refused (create_refused he), if_pos hcode,
    holderOf_eq_none hord ⟨x, hx, howner, hprio⟩]

/-- A planned rule that is not held is placed, whether or not it replaces another. -/
theorem createReplacing_placing (hord : a₀.Orderly listener)
    (h : Placing a₀ listener done p w.state) (hreplaced : Replaced done p)
    (hnew : ∀ x ∈ done, x.definition.priority ≠ rule.definition.priority)
    (hheld : ¬ IsHeld (a₀.listing listener) rule) :
    ∃ p' w', createReplacing listener (ownedBy .platform (a₀.listing listener)) rule p
        (host rounds) w = (.ok (p', none), w') ∧
      Placing a₀ listener (done ++ [rule]) p' w'.state ∧ Replaced (done ++ [rule]) p' := by
  -- the listing of the beginning decides, since nothing placed so far has this priority
  by_cases htaken : ∃ x ∈ a₀.listing listener, x.priority = .number rule.definition.priority
  · obtain ⟨x, hx, hprio⟩ := htaken
    have howner : x.owner = .platform := by
      by_contra howner
      exact hheld ⟨x, hx, howner, hprio⟩
    obtain ⟨p', w', hrun, hplacing, hdeleted⟩ :=
      createReplacing_replaces hord h hreplaced hnew hx howner hprio
    refine ⟨p', w', hrun, hplacing, fun d hd => ?_⟩
    rw [hdeleted] at hd
    rcases List.mem_append.1 hd with hd | hd
    · exact hreplaced.more rule d hd
    · rw [List.mem_singleton.1 hd]
      exact ⟨rule, by simp, hprio⟩
  · have hfree : ∀ x ∈ a₀.listing listener, x.priority ≠ .number rule.definition.priority :=
      fun x hx hprio => htaken ⟨x, hx, hprio⟩
    obtain ⟨p', w', hrun, hplacing, hdeleted⟩ := createReplacing_free h hnew hfree
    refine ⟨p', w', hrun, hplacing, fun d hd => ?_⟩
    rw [hdeleted] at hd
    exact hreplaced.more rule d hd

/-- Planned rules are placed if none of them is held; otherwise the first that is stops the run,
and only rules with numbers are deleted by then. -/
theorem createAll_placing (rounds : Nat) (hord : a₀.Orderly listener) {rules : List Planned}
    (h : Placing a₀ listener done p w.state) (hreplaced : Replaced done p)
    (hnodup : ((done ++ rules).map (·.definition.priority)).Nodup) :
    (rules.find? (fun x => IsHeld (a₀.listing listener) x) = none →
      ∃ p' w', createAll listener (ownedBy .platform (a₀.listing listener)) rules p
          (host rounds) w = (.ok (p', none), w') ∧
        Placing a₀ listener (done ++ rules) p' w'.state) ∧
    ∀ rule, rules.find? (fun x => IsHeld (a₀.listing listener) x) = some rule →
      ∃ p' w', createAll listener (ownedBy .platform (a₀.listing listener)) rules p
          (host rounds) w = (.ok (p', some (.priorityInUse rule.definition.priority)), w') ∧
        ∀ d ∈ p'.changes.deleted, ∃ n, d.priority = .number n := by
  -- on the rules that are still to be placed: each adds itself to `done`, so that whatever has been
  -- deleted has the priority of a placed rule and is not met again
  induction rules generalizing done p w with
  | nil => exact ⟨fun _ => ⟨p, w, rfl, by simpa using h⟩, by simp⟩
  | cons first rest ih =>
      have hnew : ∀ x ∈ done, x.definition.priority ≠ first.definition.priority := by
        intro x hx heq
        rw [List.map_append] at hnodup
        exact (List.nodup_append.1 hnodup).2.2 _ (List.mem_map_of_mem hx) _
          (List.mem_map_of_mem List.mem_cons_self) heq
      rw [← List.singleton_append, ← List.append_assoc] at hnodup
      -- the line about the rule changes nothing but the journal
      let w₀ := Run.note w (.report ⟨.info,
        "Creating platform rule for corresponding copilot rule: " ++ first.copilotRuleArn, []⟩)
      have h₀ : Placing a₀ listener done p w₀.state := h
      by_cases hheld : IsHeld (a₀.listing listener) first
      · obtain ⟨w', hrun⟩ := createReplacing_held hord h₀ hheld
        rw [List.find?_cons_of_pos (by simpa using hheld)]
        refine ⟨by simp, ?_⟩
        rintro _ ⟨⟩
        refine ⟨p, w', andThen_stop hrun, fun d hd => ?_⟩
        obtain ⟨x, -, hprio⟩ := hreplaced d hd
        exact ⟨_, hprio⟩
      · obtain ⟨p₁, w₁, hrun, hplacing, hreplaced₁⟩ :=
          createReplacing_placing hord h₀ hreplaced hnew hheld
        obtain ⟨hnone, hsome⟩ := ih hplacing hreplaced₁ hnodup
        rw [List.find?_cons_of_neg (by simpa using hheld)]
        constructor
        · intro hrest
          obtain ⟨p', w', hrun', hplacing'⟩ := hnone hrest
          exact ⟨p', w', (andThen_ok hrun).trans hrun', by simpa using hplacing'⟩
        · intro rule hrest
          obtain ⟨p', w', hrun', hnumbers⟩ := hsome rule hrest
          exact ⟨p', w', (andThen_ok hrun).trans hrun', hnumbers⟩

/-! ### Deleting the other platform rules -/

/-- A platform rule that is not deleted yet goes. -/
theorem deleteReported_placing (hord : a₀.Orderly listener) {r : ListenerRule}
    (h : Placing a₀ listener done p w.state) (hr : r ∈ a₀.listing listener)
    (howner : r.owner = .platform) (hnot : r.arn ∉ p.changes.deleted.map (·.arn)) :
    ∃ w', deleteReported r p (host rounds) w = (.ok (p.addDeleted r, none), w') ∧
      Placing a₀ listener done (p.addDeleted r) w'.state := by
  obtain ⟨hok, hplacing⟩ := h.deleted hord hr howner hnot
  let w₀ := Run.note w (.report ⟨.info, "Deleting platform rule: " ++ r.arn, []⟩)
  exact ⟨w₀.after (host rounds) (.deleteRule r.arn),
    delete_made (h := host rounds) (w := w₀) hok, hplacing⟩

/-- The platform rules go that were not replaced. -/
theorem deleteRemaining_placing (rounds : Nat) (hord : a₀.Orderly listener)
    {rules : List ListenerRule}
    (h : Placing a₀ listener done p w.state)
    (hrules : ∀ r ∈ rules, r ∈ a₀.listing listener ∧ r.owner = .platform) :
    ∃ p' w', deleteRemaining rules p (host rounds) w = (.ok (p', none), w') ∧
      Placing a₀ listener done p' w'.state := by
  induction rules generalizing p w with
  | nil => exact ⟨p, w, rfl, h⟩
  | cons r rest ih =>
      obtain ⟨hr, howner⟩ := hrules r (by simp)
      have hrest : ∀ x ∈ rest, x ∈ a₀.listing listener ∧ x.owner = .platform := fun x hx =>
        hrules x (by simp [hx])
      by_cases hdel : p.changes.deleted.any (fun d => d.arn == r.arn)
      · obtain ⟨p', w', hrun, hplacing⟩ := ih h hrest
        refine ⟨p', w', ?_, hplacing⟩
        rw [deleteRemaining_cons, if_pos hdel]
        exact hrun
      · have hnot : r.arn ∉ p.changes.deleted.map (·.arn) := by
          intro harn
          obtain ⟨d, hd, heq⟩ := List.mem_map.1 harn
          exact hdel (List.any_eq_true.2 ⟨d, hd, beq_iff_eq.2 heq⟩)
        obtain ⟨w₁, hone, hplacing₁⟩ := deleteReported_placing hord h hr howner hnot
        obtain ⟨p', w', hrun, hplacing⟩ := ih hplacing₁ hrest
        refine ⟨p', w', ?_, hplacing⟩
        rw [deleteRemaining_cons, if_neg hdel]
        exact (andThen_ok hone).trans hrun

/-- All platform rules go, in their order. -/
theorem deleteAll_placing (rounds : Nat) (hord : a₀.Orderly listener) {rules : List ListenerRule}
    (h : Placing a₀ listener done p w.state)
    (hrules : ∀ r ∈ rules, r ∈ a₀.listing listener ∧ r.owner = .platform)
    (hnodup : (p.changes.deleted.map (·.arn) ++ rules.map (·.arn)).Nodup) :
    ∃ p' w', deleteAll rules p (host rounds) w = (.ok (p', none), w') ∧
      Placing a₀ listener done p' w'.state := by
  induction rules generalizing p w with
  | nil => exact ⟨p, w, rfl, h⟩
  | cons r rest ih =>
      obtain ⟨hr, howner⟩ := hrules r (by simp)
      have hnot : r.arn ∉ p.changes.deleted.map (·.arn) := fun harn =>
        (List.nodup_append.1 hnodup).2.2 _ harn _ (by simp) rfl
      obtain ⟨w₁, hone, hplacing₁⟩ := deleteReported_placing hord h hr howner hnot
      obtain ⟨p', w', hrun, hplacing⟩ := ih hplacing₁ (fun x hx => hrules x (by simp [hx]))
        (by simpa [Progress.addDeleted] using hnodup)
      exact ⟨p', w', (andThen_ok hone).trans hrun, hplacing⟩

/-! ### Whole runs -/

/-- When all platform rules are deleted, those of other owners are left. -/
theorem Placing.listing_others (h : Placing a₀ listener done p a) (hord : a₀.Orderly listener)
    (hall : ∀ r ∈ ownedBy .platform (a₀.listing listener), r.arn ∈ p.gone) :
    ∃ made, a.listing listener =
        (a₀.listing listener).filter (fun r => r.owner ≠ .platform) ++ made ∧
      List.Forall₂ (Places a₀) done made := by
  obtain ⟨made, hlisting, hplaces⟩ := h.listing
  refine ⟨made, ?_, hplaces⟩
  rw [hlisting, hord.besides_platform h.deleted_mem fun r hr howner =>
    hall r (mem_ownedBy.2 ⟨hr, howner⟩)]

theorem platform_eq (hrules : q.rules = w.state.listing q.listener) :
    q.platform = ownedBy .platform (w.state.listing q.listener) := by
  rw [Prepared.platform, hrules]
  rfl

/-- A prepared run that routes platform traffic places all planned rules if none is held. -/
theorem apply_places (rounds : Nat) (hord : w.state.Orderly q.listener)
    (hfaults : w.state.faults = [])
    (hrules : q.rules = w.state.listing q.listener)
    (hnodup : (q.planned.map (·.definition.priority)).Nodup)
    (hmode : q.mode.routesPlatformTraffic = true)
    (hfree : q.planned.find? (fun x => IsHeld (w.state.listing q.listener) x) = none) :
    ∃ p' w', q.apply .start (host rounds) w = (.ok (p', none), w') ∧ ∃ made,
      w'.state.listing q.listener =
        (w.state.listing q.listener).filter (fun r => r.owner ≠ .platform) ++ made ∧
      List.Forall₂ (Places w.state) q.planned made := by
  obtain ⟨p₁, w₁, hrun, hplacing⟩ := (createAll_placing rounds hord
    (.start hfaults hord) (fun d hd => by simp [Progress.start] at hd)
    (by simpa using hnodup)).1 hfree
  obtain ⟨p', w', hrun', hplacing'⟩ := deleteRemaining_placing rounds hord hplacing
    fun r hr => mem_ownedBy.1 hr
  have happly : q.apply .start (host rounds) w = (.ok (p', none), w') := by
    rw [Prepared.apply, applyPlan, if_pos hmode, platform_eq hrules]
    exact (andThen_ok hrun).trans hrun'
  obtain ⟨hgone, -, -⟩ := Prepared.apply_completed happly
  rw [platform_eq hrules] at hgone
  exact ⟨p', w', happly, hplacing'.listing_others hord hgone⟩

/-- Otherwise it stops at the first planned rule that is held. -/
theorem apply_stops (rounds : Nat) (hord : w.state.Orderly q.listener)
    (hfaults : w.state.faults = [])
    (hrules : q.rules = w.state.listing q.listener)
    (hnodup : (q.planned.map (·.definition.priority)).Nodup)
    (hmode : q.mode.routesPlatformTraffic = true)
    (hheld : q.planned.find? (fun x => IsHeld (w.state.listing q.listener) x) = some rule) :
    ∃ p' w', q.apply .start (host rounds) w =
        (.ok (p', some (.priorityInUse rule.definition.priority)), w') ∧
      ∀ d ∈ p'.changes.deleted, ∃ n, d.priority = .number n := by
  obtain ⟨p', w', hrun, hnumbers⟩ := (createAll_placing rounds hord
    (.start hfaults hord) (fun d hd => by simp [Progress.start] at hd)
    (by simpa using hnodup)).2 rule hheld
  refine ⟨p', w', ?_, hnumbers⟩
  rw [Prepared.apply, applyPlan, if_pos hmode, platform_eq hrules]
  exact andThen_stop hrun

/-- A prepared run that routes copilot traffic leaves the rules of other owners. -/
theorem apply_deletes (rounds : Nat) (hord : w.state.Orderly q.listener)
    (hfaults : w.state.faults = [])
    (hrules : q.rules = w.state.listing q.listener)
    (hmode : ¬ q.mode.routesPlatformTraffic = true) :
    ∃ p' w', q.apply .start (host rounds) w = (.ok (p', none), w') ∧
      w'.state.listing q.listener =
        (w.state.listing q.listener).filter (fun r => r.owner ≠ .platform) := by
  have hnodup : ((ownedBy .platform (w.state.listing q.listener)).map (·.arn)).Nodup :=
    hord.arns.sublist (List.filter_sublist.map _)
  obtain ⟨p', w', hrun, hplacing⟩ := deleteAll_placing rounds hord
    (.start hfaults hord) (fun r hr => mem_ownedBy.1 hr) (by simpa [Progress.start] using hnodup)
  have happly : q.apply .start (host rounds) w = (.ok (p', none), w') := by
    rw [Prepared.apply, applyPlan, if_neg hmode, platform_eq hrules]
    exact hrun
  obtain ⟨hgone, -, -⟩ := Prepared.apply_completed happly
  rw [platform_eq hrules] at hgone
  obtain ⟨made, hlisting, hplaces⟩ := hplacing.listing_others hord hgone
  cases hplaces
  exact ⟨p', w', happly, by rw [hlisting, List.append_nil]⟩

/-- If changes stop without a fault of the account, the run fails with what has stopped them, at
once or as rolled back. -/
theorem settle_withoutFaults {e : Failure} (hord : w₁.state.Orderly q.listener)
    (hfaults : w₁.state.faults = []) (hrules : q.rules = w₁.state.listing q.listener)
    {t : List Entry} (a : Advance (host rounds) q w₁ t p w)
    (hnumbers : ∀ d ∈ p.changes.deleted, ∃ n, d.priority = .number n) :
    ∃ e', (settle q.listener (p, some e) (host rounds) w).1 = .failed e' ∧
      (e' = e ∨ ∃ byCreation byDeletion, e' = .rolledBack e byCreation byDeletion) := by
  by_cases huntouched : p.isUntouched = true
  · rw [settle_stopped huntouched]
    exact ⟨e, rfl, .inl rfl⟩
  · obtain ⟨t', restored, w₃, lines, w', hsettle, hreplay, -, -, -⟩ := settle_tookBack
      q.listener (host rounds) w e (by simpa using huntouched)
    have hstanding := advance_standing hrules hord a
    have hspares : Spares (backFrom w e).state w₃.state := by
      intro f hf
      have hnone : w.state.faults = [] := hstanding.later.faults.trans hfaults
      rw [show (backFrom w e).state.faults = [] from hnone] at hf
      cases hf
    obtain ⟨-, hdone, -⟩ := replay_midway hstanding.revertible hreplay hstanding.midway
      (fun r hr => hnumbers r (by rw [a.recreated_eq] at hr; exact List.mem_reverse.1 hr)) hspares
    rw [hsettle]
    exact ⟨_, rfl, .inr ⟨_, _, failure_rolledBack hdone e⟩⟩

section Statement

variable {o : Outcome Changes}

/-- A run that routes platform traffic, when none of its planned rules is held. -/
theorem update_places (hq : prepare config environment (host rounds) w = (.ok q, w₁))
    (hfaults : w.state.faults = []) (hord : w.state.Orderly q.listener)
    (hmode : q.mode.routesPlatformTraffic = true)
    (hfree : q.planned.find? (fun x => IsHeld (w.state.listing q.listener) x) = none) :
    ∃ c w', update config environment (host rounds) w = (.ok c, w') ∧ ∃ made,
      w'.state.listing q.listener =
        (w.state.listing q.listener).filter (fun r => r.owner ≠ .platform) ++ made ∧
      List.Forall₂ (fun rule r => r = rule.definition.rule r.arn ∧
        ∀ x ∈ w.state.listing q.listener, x.arn ≠ r.arn) q.planned made := by
  obtain ⟨hrules, hsame, hlater⟩ := prepare_listing hq hord
  have hlisting := congrFun hsame.listing q.listener
  rw [← hlisting] at hrules hfree ⊢
  obtain ⟨p, w₂, happly, made, hfinal, hplaces⟩ := apply_places rounds (hord.same hsame)
    (hlater.faults.trans hfaults) hrules (prepare_nodup hq) hmode hfree
  obtain ⟨lines, w₃, hsettle, hstate, -, -⟩ := settle_changed q.listener p (host rounds) w₂
  refine ⟨p.changes, w₃, (update_settle hq happly).trans hsettle, made, by rw [hstate, hfinal], ?_⟩
  refine hplaces.imp fun rule r hr => ⟨hr.1, fun x hx heq => ?_⟩
  exact hr.2.ne ((hord.same hsame).spent x hx) heq.symm

/-- A run that routes platform traffic, when one of its planned rules is held. -/
theorem update_stops (hq : prepare config environment (host rounds) w = (.ok q, w₁))
    (hfaults : w.state.faults = []) (hord : w.state.Orderly q.listener)
    (hmode : q.mode.routesPlatformTraffic = true)
    (hheld : q.planned.find? (fun x => IsHeld (w.state.listing q.listener) x) = some rule) :
    ∃ e, (update config environment (host rounds) w).1 = .failed e ∧
      (e = .priorityInUse rule.definition.priority ∨ ∃ byCreation byDeletion,
        e = .rolledBack (.priorityInUse rule.definition.priority) byCreation byDeletion) := by
  obtain ⟨hrules, hsame, hlater⟩ := prepare_listing hq hord
  rw [← congrFun hsame.listing q.listener] at hrules hheld
  have hfaults' := hlater.faults.trans hfaults
  have hnodup := prepare_nodup hq
  obtain ⟨p, w₂, happly, hnumbers⟩ := apply_stops rounds (hord.same hsame) hfaults' hrules hnodup
    hmode hheld
  obtain ⟨t, p', stop, w₂', happly', a, -⟩ := q.apply_advance (host rounds) w₁ hnodup
  cases happly.symm.trans happly'
  rw [update_settle hq happly]
  exact settle_withoutFaults (hord.same hsame) hfaults' hrules a hnumbers

/-- A run that routes copilot traffic. -/
theorem update_removes (hq : prepare config environment (host rounds) w = (.ok q, w₁))
    (hfaults : w.state.faults = []) (hord : w.state.Orderly q.listener)
    (hmode : q.mode.routesCopilotTraffic = true) :
    ∃ c w', update config environment (host rounds) w = (.ok c, w') ∧
      w'.state.listing q.listener =
        (w.state.listing q.listener).filter (fun r => r.owner ≠ .platform) := by
  obtain ⟨hrules, hsame, hlater⟩ := prepare_listing hq hord
  rw [← congrFun hsame.listing q.listener] at hrules ⊢
  have hmode' : ¬ q.mode.routesPlatformTraffic = true := by
    simpa [DeploymentMode.routesCopilotTraffic] using hmode
  obtain ⟨p, w₂, happly, hfinal⟩ := apply_deletes rounds (hord.same hsame)
    (hlater.faults.trans hfaults) hrules hmode'
  obtain ⟨lines, w₃, hsettle, hstate, -, -⟩ := settle_changed q.listener p (host rounds) w₂
  exact ⟨p.changes, w₃, (update_settle hq happly).trans hsettle, by rw [hstate, hfinal]⟩

/-- **A run without faults converges.**  Take an orderly account without faults and a rule update
whose planning succeeds.  In a mode that routes platform traffic, the run succeeds exactly if no
planned rule is held; then the listener has the rules of other owners as they were and, behind
them, for each planned rule exactly one rule with what is planned, under a new name.  Otherwise
the run fails because the priority of the first planned rule that is held is in use, at once or as
rolled back.  In a mode that routes copilot traffic, the run succeeds and leaves exactly the rules
of other owners. -/
theorem update_converges (hq : prepare config environment (host rounds) w = (.ok q, w₁))
    (hrun : update config environment (host rounds) w = (o, w'))
    (hfaults : w.state.faults = []) (hord : w.state.Orderly q.listener) :
    (q.mode.routesPlatformTraffic = true →
      ((∃ c, o = .ok c) ↔ ∀ rule ∈ q.planned, ¬ IsHeld (w.state.listing q.listener) rule) ∧
      ((∃ c, o = .ok c) → ∃ made,
        w'.state.listing q.listener =
          (w.state.listing q.listener).filter (fun r => r.owner ≠ .platform) ++ made ∧
        List.Forall₂ (fun rule r => r = rule.definition.rule r.arn ∧
          ∀ x ∈ w.state.listing q.listener, x.arn ≠ r.arn) q.planned made) ∧
      ∀ rule, q.planned.find? (fun x => IsHeld (w.state.listing q.listener) x) = some rule →
        ∃ e, o = .failed e ∧ (e = .priorityInUse rule.definition.priority ∨
          ∃ byCreation byDeletion,
            e = .rolledBack (.priorityInUse rule.definition.priority) byCreation byDeletion)) ∧
    (q.mode.routesCopilotTraffic = true → (∃ c, o = .ok c) ∧
      w'.state.listing q.listener =
        (w.state.listing q.listener).filter (fun r => r.owner ≠ .platform)) := by
  constructor
  · intro hmode
    cases hfind : q.planned.find? (fun x => IsHeld (w.state.listing q.listener) x) with
    | none =>
        obtain ⟨c, w₂, hplaces, hmade⟩ := update_places hq hfaults hord hmode hfind
        cases hrun.symm.trans hplaces
        refine ⟨⟨fun _ rule hr hheld => ?_, fun _ => ⟨c, rfl⟩⟩, fun _ => hmade, by simp⟩
        exact List.find?_eq_none.1 hfind rule hr (decide_eq_true hheld)
    | some rule =>
        obtain ⟨e, hstops, hcause⟩ := update_stops hq hfaults hord hmode hfind
        rw [hrun] at hstops
        have hfailed : o = .failed e := hstops
        have hheld : IsHeld (w.state.listing q.listener) rule := by
          simpa using List.find?_some hfind
        have hnot : ¬ ∃ c, o = .ok c := by
          rintro ⟨c, rfl⟩
          cases hfailed
        refine ⟨⟨fun hok => absurd hok hnot, fun hnone => ?_⟩, fun hok => absurd hok hnot, ?_⟩
        · exact absurd hheld (hnone rule (List.mem_of_find?_eq_some hfind))
        · rintro _ ⟨⟩
          exact ⟨e, hfailed, hcause⟩
  · intro hmode
    obtain ⟨c, w₂, hremoves, hothers⟩ := update_removes hq hfaults hord hmode
    cases hrun.symm.trans hremoves
    exact ⟨⟨c, rfl⟩, hothers⟩

end Statement

/-- On the small account, whose only planned rule replaces a platform rule, a run converges. -/
theorem update_converges_small : ∃ c w',
    update (smallConfig .platform) "dev" (host 5) (smallWorld []) = (.ok c, w') ∧ ∃ made,
      w'.state.listing "https" =
        ((smallAccount []).listing "https").filter (fun r => r.owner ≠ .platform) ++ made := by
  have hfound : ((prepare (smallConfig .platform) "dev" (host 5)
      (smallWorld [])).1.value?.map fun q => (q.listener, q.mode.routesPlatformTraffic,
        decide (∀ rule ∈ q.planned, ¬ IsHeld ((smallAccount []).listing "https") rule))) =
      some ("https", true, true) := by
    decide +kernel
  obtain ⟨q, hvalue, hq⟩ := Option.map_eq_some_iff.1 hfound
  have hlistener : q.listener = "https" := congrArg Prod.fst hq
  have hmode : q.mode.routesPlatformTraffic = true := congrArg (fun x => x.2.1) hq
  have hheld : ∀ rule ∈ q.planned, ¬ IsHeld ((smallAccount []).listing "https") rule :=
    of_decide_eq_true (congrArg (fun x => x.2.2) hq)
  obtain ⟨o, w', hrun⟩ : ∃ o w',
      update (smallConfig .platform) "dev" (host 5) (smallWorld []) = (o, w') :=
    ⟨_, _, rfl⟩
  obtain ⟨hplatform, -⟩ := update_converges (Outcome.eq_ok hvalue) hrun rfl
    (hlistener ▸ smallAccount_orderly [])
  rw [hlistener] at hplatform
  obtain ⟨hiff, hmade, -⟩ := hplatform hmode
  obtain ⟨c, rfl⟩ := hiff.2 hheld
  obtain ⟨made, hlisting, -⟩ := hmade ⟨c, rfl⟩
  exact ⟨c, w', hrun, made, hlisting⟩

end Cutover.InMemory
