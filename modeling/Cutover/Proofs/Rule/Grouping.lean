/-
**Groups of planned rules.**

Planned rules are put into groups one after the other.  After any number of them the groups are for
different hosts, and the group for some hosts holds the rules for these hosts in the order in which
they came.  So every rule is in one group, once.

Main definitions:

* `Cutover.Rule.Grouped` — what the groups of rules are.

Main results:

* `Cutover.Rule.Grouped.add` — one more rule keeps the groups what they are;
* `Cutover.Rule.groupByHosts_grouped` — **the groups of rules are those for their hosts**;
* `Cutover.Rule.groupByHosts_perm` — nothing is lost or added.
-/
import Mathlib.Data.List.Induction
import Cutover.Proofs.Rule.Band

set_option autoImplicit false

namespace Cutover.Rule

variable {rules : List Planned} {groups : List Group} {rule : Planned} {g : Group}

/-- The rules that are for some hosts, in their order. -/
def rulesFor (hosts : List String) (rules : List Planned) : List Planned :=
  rules.filter (·.definition.hostHeaders = hosts)

@[simp] theorem mem_rulesFor {hosts : List String} :
    rule ∈ rulesFor hosts rules ↔ rule ∈ rules ∧ rule.definition.hostHeaders = hosts := by
  simp [rulesFor]

theorem rulesFor_append (hosts : List String) (rules rules' : List Planned) :
    rulesFor hosts (rules ++ rules') = rulesFor hosts rules ++ rulesFor hosts rules' :=
  List.filter_append _ _

theorem rulesFor_self : rulesFor rule.definition.hostHeaders [rule] = [rule] := by
  simp [rulesFor]

theorem rulesFor_other {hosts : List String} (hne : hosts ≠ rule.definition.hostHeaders) :
    rulesFor hosts [rule] = [] := by
  simp [rulesFor, hne.symm]

/-! ### One more rule -/

/-- The hosts of the groups after one more rule: its own come last if they are new. -/
theorem map_hostHeaders_addToGroups (rule : Planned) (groups : List Group) :
    (addToGroups rule groups).map (·.hostHeaders) =
      if rule.definition.hostHeaders ∈ groups.map (·.hostHeaders) then
        groups.map (·.hostHeaders)
      else groups.map (·.hostHeaders) ++ [rule.definition.hostHeaders] := by
  induction groups with
  | nil => rfl
  | cons first rest ih =>
      rw [addToGroups]
      by_cases hfirst : first.hostHeaders = rule.definition.hostHeaders
      · simp [hfirst]
      · simp only [if_neg hfirst, List.map_cons, ih, List.mem_cons, Ne.symm hfirst, false_or]
        split <;> simp

/-- A group after one more rule: for other hosts it is one of the groups before; for the hosts of
the rule it has the rule behind those that it had before, if there was such a group. -/
theorem addToGroups_cases (hnodup : (groups.map (·.hostHeaders)).Nodup)
    (hg : g ∈ addToGroups rule groups) :
    (g.hostHeaders ≠ rule.definition.hostHeaders ∧ g ∈ groups) ∨
      (g.hostHeaders = rule.definition.hostHeaders ∧
        ((∃ g' ∈ groups, g'.hostHeaders = g.hostHeaders ∧ g.rules = g'.rules ++ [rule]) ∨
          (g.hostHeaders ∉ groups.map (·.hostHeaders) ∧ g.rules = [rule]))) := by
  induction groups with
  | nil =>
      rw [addToGroups, List.mem_singleton] at hg
      subst hg
      exact .inr ⟨rfl, .inr ⟨by simp, rfl⟩⟩
  | cons first rest ih =>
      obtain ⟨hnew, hnodup⟩ := List.nodup_cons.1 hnodup
      rw [addToGroups] at hg
      split at hg
      · rename_i hfirst
        rcases List.mem_cons.1 hg with rfl | hg
        · exact .inr ⟨hfirst, .inl ⟨first, List.mem_cons_self, rfl, rfl⟩⟩
        · -- the other groups are for other hosts than the first one
          refine .inl ⟨fun hsame => hnew ?_, List.mem_cons_of_mem _ hg⟩
          exact List.mem_map.2 ⟨g, hg, hsame.trans hfirst.symm⟩
      · rename_i hfirst
        rcases List.mem_cons.1 hg with rfl | hg
        · exact .inl ⟨hfirst, List.mem_cons_self⟩
        · rcases ih hnodup hg with
            ⟨hother, hmem⟩ | ⟨hsame, ⟨g', hg', hhosts, hrules⟩ | ⟨hno, hrules⟩⟩
          · exact .inl ⟨hother, List.mem_cons_of_mem _ hmem⟩
          · exact .inr ⟨hsame, .inl ⟨g', List.mem_cons_of_mem _ hg', hhosts, hrules⟩⟩
          · refine .inr ⟨hsame, .inr ⟨?_, hrules⟩⟩
            simp only [List.map_cons, List.mem_cons, not_or]
            exact ⟨fun hhosts => hfirst (hhosts.symm.trans hsame), hno⟩

/-- One more rule is all that is added to the rules in groups. -/
theorem flatMap_addToGroups (rule : Planned) (groups : List Group) :
    ((addToGroups rule groups).flatMap (·.rules)).Perm (groups.flatMap (·.rules) ++ [rule]) := by
  induction groups with
  | nil => exact .refl _
  | cons first rest ih =>
      rw [addToGroups]
      split
      · simp only [List.flatMap_cons, List.append_assoc]
        exact List.perm_append_comm.append_left _
      · simp only [List.flatMap_cons, List.append_assoc]
        exact ih.append_left _

/-! ### All rules -/

/-- What the groups of rules are: they are for different hosts, the group for some hosts holds the
rules for these hosts in their order, and no rule is without a group and no group without a rule. -/
structure Grouped (rules : List Planned) (groups : List Group) : Prop where
  distinct : (groups.map (·.hostHeaders)).Nodup
  holds : ∀ g ∈ groups, g.rules = rulesFor g.hostHeaders rules
  covers : ∀ rule ∈ rules, rule.definition.hostHeaders ∈ groups.map (·.hostHeaders)
  needed : ∀ g ∈ groups, g.rules ≠ []

theorem grouped_nil : Grouped [] [] where
  distinct := .nil
  holds := by simp
  covers := by simp
  needed := by simp

/-- One more rule keeps the groups what they are. -/
theorem Grouped.add (hgroups : Grouped rules groups) (rule : Planned) :
    Grouped (rules ++ [rule]) (addToGroups rule groups) := by
  have hhosts := map_hostHeaders_addToGroups rule groups
  constructor
  case distinct =>
    rw [hhosts]
    split
    · exact hgroups.distinct
    · rename_i hnew
      refine List.nodup_append.2 ⟨hgroups.distinct, by simp, fun a ha b hb hab => hnew ?_⟩
      rw [← List.mem_singleton.1 hb, ← hab]
      exact ha
  case holds =>
    intro g hg
    rw [rulesFor_append]
    rcases addToGroups_cases hgroups.distinct hg with
      ⟨hother, hmem⟩ | ⟨hsame, ⟨g', hg', hhosts', hrules⟩ | ⟨hno, hrules⟩⟩
    · rw [rulesFor_other hother, List.append_nil]
      exact hgroups.holds g hmem
    · rw [hrules, hgroups.holds g' hg', hhosts', hsame, rulesFor_self]
    · -- a rule that came before for these hosts would have a group
      have hnone : rulesFor g.hostHeaders rules = [] := by
        refine List.filter_eq_nil_iff.2 fun r hr hfor => hno ?_
        rw [← of_decide_eq_true hfor]
        exact hgroups.covers r hr
      rw [hrules, hnone, hsame, rulesFor_self, List.nil_append]
  case covers =>
    intro r hr
    rw [hhosts]
    rcases List.mem_append.1 hr with hr | hr
    · have hcovered := hgroups.covers r hr
      split
      · exact hcovered
      · exact List.mem_append_left _ hcovered
    · obtain rfl := List.mem_singleton.1 hr
      split
      · assumption
      · simp
  case needed =>
    intro g hg
    rcases addToGroups_cases hgroups.distinct hg with
      ⟨-, hmem⟩ | ⟨-, ⟨g', -, -, hrules⟩ | ⟨-, hrules⟩⟩
    · exact hgroups.needed g hmem
    · simp [hrules]
    · simp [hrules]

theorem groupByHosts_append (rules : List Planned) (rule : Planned) :
    groupByHosts (rules ++ [rule]) = addToGroups rule (groupByHosts rules) := by
  simp [groupByHosts]

/-- **The groups of rules are those for their hosts.** -/
theorem groupByHosts_grouped (rules : List Planned) : Grouped rules (groupByHosts rules) := by
  -- on the last rule, which is the last to be put into a group
  induction rules using List.reverseRecOn with
  | nil => exact grouped_nil
  | append_singleton rules rule ih =>
      rw [groupByHosts_append]
      exact ih.add rule

/-- Grouping rules neither loses nor adds any. -/
theorem groupByHosts_perm (rules : List Planned) :
    ((groupByHosts rules).flatMap (·.rules)).Perm rules := by
  induction rules using List.reverseRecOn with
  | nil => exact .refl _
  | append_singleton rules rule ih =>
      rw [groupByHosts_append]
      exact (flatMap_addToGroups rule _).trans (ih.append_right [rule])

end Cutover.Rule
