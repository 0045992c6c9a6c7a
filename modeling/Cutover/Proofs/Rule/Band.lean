/-
**Bands of priorities.**

Each group of planned rules has a band of its own, and inside a band the rules stand at regular
steps.  Hence the priorities of a plan strictly increase from its first rule to its last.

Main definitions:

* `Cutover.Rule.Planned.withPriority` — a planned rule with another priority.

Main results:

* `Cutover.Rule.mem_spaced` — where the priorities of one group lie;
* `Cutover.Rule.assignFrom_sorted` — the priorities of all groups strictly increase;
* `Cutover.Rule.assignPriorities_nodup` — no two planned rules have the same priority;
* `Cutover.Rule.mem_assignPriorities` — nothing but the priorities is assigned.
-/
import Mathlib.Data.List.Nodup
import Cutover.Rule.Band

set_option autoImplicit false

namespace Cutover.Rule

theorem lt_nextBand (last : Nat) : last < nextBand last := by
  have := Nat.div_add_mod last bandWidth
  have := Nat.mod_lt last (show 0 < bandWidth by decide)
  rw [nextBand, Nat.add_mul, Nat.one_mul, Nat.mul_comm]
  omega

/-- The priorities of a group lie between the start of its band and its last priority. -/
theorem mem_spaced {start : Nat} {rules : List Planned} {rule : Planned}
    (hr : rule ∈ spaced start rules) :
    start ≤ rule.definition.priority ∧
      rule.definition.priority ≤ lastPriority start rules.length := by
  induction rules generalizing start with
  | nil => simp [spaced] at hr
  | cons first rest ih =>
      rcases List.mem_cons.1 hr with rfl | hr
      · exact ⟨Nat.le_refl _, Nat.le_add_right _ _⟩
      · obtain ⟨hlow, hhigh⟩ := ih hr
        -- a rule behind the first one shows that the rest is not empty
        have hrest : 0 < rest.length := by
          cases rest with
          | nil => simp [spaced] at hr
          | cons _ _ => simp
        simp only [lastPriority, List.length_cons, priorityStep] at hlow hhigh ⊢
        omega

theorem spaced_sorted (start : Nat) (rules : List Planned) :
    (spaced start rules).Pairwise (fun a b => a.definition.priority < b.definition.priority) := by
  induction rules generalizing start with
  | nil => exact .nil
  | cons first rest ih =>
      refine List.pairwise_cons.2 ⟨fun rule hr => ?_, ih _⟩
      have := (mem_spaced hr).1
      simp only [priorityStep] at this ⊢
      omega

/-- The priorities of all groups are not below the first band and strictly increase. -/
theorem assignFrom_sorted {start : Nat} {groups : List Group} {planned : List Planned}
    (hp : assignFrom start groups = .ok planned) :
    (∀ rule ∈ planned, start ≤ rule.definition.priority) ∧
      planned.Pairwise (fun a b => a.definition.priority < b.definition.priority) := by
  induction groups generalizing start planned with
  | nil =>
      cases hp
      exact ⟨by simp, .nil⟩
  | cons g rest ih =>
      rw [assignFrom] at hp
      split at hp
      · cases hp
      · cases hmore : assignFrom (nextBand (lastPriority start g.rules.length)) rest with
        | error e =>
            rw [hmore] at hp
            cases hp
        | ok more =>
            rw [hmore] at hp
            cases hp
            obtain ⟨hlow, hsorted⟩ := ih hmore
            have hlen : (deepestFirst g.rules).length = g.rules.length := by
              simp [deepestFirst]
            have hlast : start ≤ lastPriority start g.rules.length := Nat.le_add_right _ _
            have hnext := lt_nextBand (lastPriority start g.rules.length)
            refine ⟨fun rule hr => ?_, List.pairwise_append.2
              ⟨spaced_sorted _ _, hsorted, fun a ha b hb => ?_⟩⟩
            · rcases List.mem_append.1 hr with hr | hr
              · exact (mem_spaced hr).1
              · have := hlow rule hr
                omega
            · have ha := (mem_spaced ha).2
              have hb := hlow b hb
              rw [hlen] at ha
              omega

/-- No two planned rules have the same priority. -/
theorem assignPriorities_nodup {groups : List Group} {planned : List Planned}
    (hp : assignPriorities groups = .ok planned) :
    (planned.map (·.definition.priority)).Nodup :=
  List.pairwise_map.2 ((assignFrom_sorted hp).2.imp fun h => Nat.ne_of_lt h)

/-! ### What the rules are -/

/-- A planned rule with another priority. -/
def Planned.withPriority (rule : Planned) (n : Nat) : Planned :=
  { rule with definition := { rule.definition with priority := n } }

/-- A rule of a group is one of those that were put into groups. -/
theorem mem_addToGroups {rule r : Planned} {groups : List Group} {g : Group}
    (hg : g ∈ addToGroups rule groups) (hr : r ∈ g.rules) :
    r = rule ∨ ∃ g' ∈ groups, r ∈ g'.rules := by
  induction groups with
  | nil =>
      rw [addToGroups, List.mem_singleton] at hg
      subst hg
      exact .inl (List.mem_singleton.1 hr)
  | cons first rest ih =>
      rw [addToGroups] at hg
      split at hg
      · rcases List.mem_cons.1 hg with rfl | hg
        · rcases List.mem_append.1 hr with hr | hr
          · exact .inr ⟨first, List.mem_cons_self, hr⟩
          · exact .inl (List.mem_singleton.1 hr)
        · exact .inr ⟨g, List.mem_cons_of_mem _ hg, hr⟩
      · rcases List.mem_cons.1 hg with rfl | hg
        · exact .inr ⟨g, List.mem_cons_self, hr⟩
        · rcases ih hg with h | ⟨g', hg', hr⟩
          · exact .inl h
          · exact .inr ⟨g', List.mem_cons_of_mem _ hg', hr⟩

theorem mem_foldl_addToGroups {rules : List Planned} {groups : List Group} {g : Group} {r : Planned}
    (hg : g ∈ rules.foldl (fun groups rule => addToGroups rule groups) groups)
    (hr : r ∈ g.rules) : r ∈ rules ∨ ∃ g' ∈ groups, r ∈ g'.rules := by
  induction rules generalizing groups with
  | nil => exact .inr ⟨g, hg, hr⟩
  | cons rule rest ih =>
      rcases ih hg with h | ⟨g', hg', hr'⟩
      · exact .inl (List.mem_cons_of_mem _ h)
      · rcases mem_addToGroups hg' hr' with rfl | h
        · exact .inl List.mem_cons_self
        · exact .inr h

/-- Grouping adds no rules. -/
theorem mem_groupByHosts {rules : List Planned} {g : Group} {r : Planned}
    (hg : g ∈ groupByHosts rules) (hr : r ∈ g.rules) : r ∈ rules := by
  rcases mem_foldl_addToGroups hg hr with h | ⟨g', hg', -⟩
  · exact h
  · cases hg'

theorem mem_of_mem_spaced {start : Nat} {rules : List Planned} {rule : Planned}
    (hr : rule ∈ spaced start rules) : ∃ r ∈ rules, ∃ n, rule = r.withPriority n := by
  induction rules generalizing start with
  | nil => cases hr
  | cons first rest ih =>
      rcases List.mem_cons.1 hr with rfl | hr
      · exact ⟨first, List.mem_cons_self, start, rfl⟩
      · obtain ⟨r, hmem, n, hn⟩ := ih hr
        exact ⟨r, List.mem_cons_of_mem _ hmem, n, hn⟩

/-- A rule that was given a priority is one of the groups, but for the priority. -/
theorem mem_assignFrom {start : Nat} {groups : List Group} {planned : List Planned}
    (hp : assignFrom start groups = .ok planned) {rule : Planned} (hr : rule ∈ planned) :
    ∃ g ∈ groups, ∃ r ∈ g.rules, ∃ n, rule = r.withPriority n := by
  induction groups generalizing start planned with
  | nil =>
      cases hp
      cases hr
  | cons g rest ih =>
      rw [assignFrom] at hp
      split at hp
      · cases hp
      · cases hmore : assignFrom (nextBand (lastPriority start g.rules.length)) rest with
        | error e =>
            rw [hmore] at hp
            cases hp
        | ok more =>
            rw [hmore] at hp
            cases hp
            rcases List.mem_append.1 hr with hr | hr
            · obtain ⟨r, hmem, n, hn⟩ := mem_of_mem_spaced hr
              exact ⟨g, List.mem_cons_self, r, List.mem_mergeSort.1 hmem, n, hn⟩
            · obtain ⟨g', hg', hrule⟩ := ih hmore hr
              exact ⟨g', List.mem_cons_of_mem _ hg', hrule⟩

/-- Assigning priorities to groups changes nothing else of their rules. -/
theorem mem_assignPriorities {rules planned : List Planned}
    (hp : assignPriorities (groupByHosts rules) = .ok planned) {rule : Planned}
    (hr : rule ∈ planned) : ∃ r ∈ rules, ∃ n, rule = r.withPriority n := by
  obtain ⟨g, hg, r, hmem, hn⟩ := mem_assignFrom hp hr
  exact ⟨r, mem_groupByHosts hg hmem, hn⟩

end Cutover.Rule
