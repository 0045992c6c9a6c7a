/-
**Groups by the set of hosts.**

Two planned rules are in one group exactly if they are for the same hosts, however these are
written down.  Hence nothing that is done with the groups depends on the order in which the hosts of
a condition are listed or on how often one is: if the hosts of rules are written in another way,
then the rules at the same places are grouped together, and they are given the same priorities.

Main definitions:

* `Cutover.Rule.HostPartition` — rules divided by their sets of hosts;
* `Cutover.Rule.Respelled` — a rule whose hosts are written in another way;
* `Cutover.Rule.SamePlace` — rules at one place of two lists.

Main results:

* `Cutover.Rule.groupByHosts_hostPartition` — the groups divide the rules by their sets of hosts;
* `Cutover.Rule.groupByHosts_related`, `Cutover.Rule.assignPriorities_related` — groups and
  priorities of two lists whose rules correspond;
* `Cutover.Rule.groupByHosts_partition` — **the groups depend on nothing but the sets of hosts**.
-/
import Mathlib.Data.List.Forall2
import Cutover.Proofs.Rule.Grouping
import Cutover.Proofs.Sorting
import Cutover.Proofs.Text.ByteOrder

set_option autoImplicit false

namespace Cutover.Rule

variable {rules rules' planned planned' : List Planned} {groups groups' : List Group}
  {rule rule' : Planned} {g g' : Group}

/-! ### Sets of hosts -/

/-- The hosts of a rule as its condition lists them; without a condition there are none. -/
def Planned.hostValues (rule : Planned) : List String :=
  (rule.definition.conditions.find? hostHeader).getD []

/-- Two rules are for the same hosts if their conditions list the same ones. -/
def Planned.SameHosts (rule rule' : Planned) : Prop :=
  ∀ host, host ∈ rule.hostValues ↔ host ∈ rule'.hostValues

theorem hostHeaders_eq_iff :
    rule.definition.hostHeaders = rule'.definition.hostHeaders ↔ rule.SameHosts rule' :=
  Text.sortedSet_eq_iff

/-- The place of the first rule of a group. -/
def firstIn (rules : List Planned) (g : Group) : Nat := rules.findIdx (· ∈ g.rules)

/-- Rules divided by their sets of hosts. -/
structure HostPartition (rules : List Planned) (groups : List Group) : Prop where
  needed : ∀ g ∈ groups, g.rules ≠ []
  distinct : groups.Pairwise fun g g' => g.hostHeaders ≠ g'.hostHeaders
  inByteOrder : ∀ g ∈ groups,
    g.hostHeaders.Pairwise fun host host' => Text.bytes host < Text.bytes host'
  hosts : ∀ g ∈ groups, ∀ rule ∈ g.rules, ∀ host, host ∈ g.hostHeaders ↔ host ∈ rule.hostValues
  together : ∀ rule ∈ rules, ∀ rule' ∈ rules,
    (∃ g ∈ groups, rule ∈ g.rules ∧ rule' ∈ g.rules) ↔ rule.SameHosts rule'
  /-- Inside a group the rules keep their order. -/
  inOrder : ∀ g ∈ groups, g.rules.Sublist rules
  /-- The groups stand in the order of their first rules. -/
  byFirst : groups.Pairwise fun g g' => firstIn rules g < firstIn rules g'
  /-- Every rule is in one group, once. -/
  once : (groups.flatMap (·.rules)).Perm rules

/-! ### The order of groups -/

/-- The place of the first rule for some hosts. -/
def firstFor (rules : List Planned) (hosts : List String) : Nat :=
  rules.findIdx (·.definition.hostHeaders = hosts)

/-- The hosts of groups are those of rules. -/
theorem Grouped.exists_rule (hgroups : Grouped rules groups) {hosts : List String}
    (hhosts : hosts ∈ groups.map (·.hostHeaders)) :
    ∃ rule ∈ rules, rule.definition.hostHeaders = hosts := by
  obtain ⟨g, hg, rfl⟩ := List.mem_map.1 hhosts
  obtain ⟨rule, hrule⟩ := List.exists_mem_of_ne_nil _ (hgroups.needed g hg)
  rw [hgroups.holds g hg] at hrule
  exact ⟨rule, mem_rulesFor.1 hrule⟩

/-- A rule of a group is one of the rules for its hosts. -/
theorem Grouped.mem_iff (hgroups : Grouped rules groups) (hg : g ∈ groups) :
    rule ∈ g.rules ↔ rule ∈ rules ∧ rule.definition.hostHeaders = g.hostHeaders := by
  rw [hgroups.holds g hg, mem_rulesFor]

/-- One more rule at the end does not change which rule for some hosts is the first. -/
theorem firstFor_append {hosts : List String}
    (hsome : ∃ rule ∈ rules, rule.definition.hostHeaders = hosts) (rule : Planned) :
    firstFor (rules ++ [rule]) hosts = firstFor rules hosts ∧
      firstFor rules hosts < rules.length := by
  have hlt : firstFor rules hosts < rules.length :=
    List.findIdx_lt_length_of_exists (by simpa using hsome)
  refine ⟨?_, hlt⟩
  rw [firstFor, List.findIdx_append]
  exact if_pos hlt

/-- The hosts of groups stand in the order in which rules for them first come. -/
theorem map_hostHeaders_sorted (rules : List Planned) :
    ((groupByHosts rules).map (·.hostHeaders)).Pairwise
      fun hosts hosts' => firstFor rules hosts < firstFor rules hosts' := by
  -- on the last rule, whose hosts come last if they are new
  induction rules using List.reverseRecOn with
  | nil => exact .nil
  | append_singleton rules rule ih =>
      have hbefore : ∀ hosts ∈ (groupByHosts rules).map (·.hostHeaders), _ :=
        fun hosts hhosts => firstFor_append ((groupByHosts_grouped rules).exists_rule hhosts) rule
      have hkept : ((groupByHosts rules).map (·.hostHeaders)).Pairwise
          fun hosts hosts' =>
            firstFor (rules ++ [rule]) hosts < firstFor (rules ++ [rule]) hosts' := by
        refine ih.imp_of_mem fun hhosts hhosts' hlt => ?_
        rw [(hbefore _ hhosts).1, (hbefore _ hhosts').1]
        exact hlt
      rw [groupByHosts_append, map_hostHeaders_addToGroups]
      split
      · exact hkept
      · rename_i hnew
        have hlast : firstFor (rules ++ [rule]) rule.definition.hostHeaders = rules.length := by
          have hnone : ¬ rules.findIdx (·.definition.hostHeaders = rule.definition.hostHeaders) <
              rules.length := by
            rw [List.findIdx_lt_length]
            rintro ⟨r, hr, hfor⟩
            rw [← of_decide_eq_true hfor] at hnew
            exact hnew ((groupByHosts_grouped rules).covers r hr)
          rw [firstFor, List.findIdx_append, if_neg hnone]
          simp [List.findIdx_cons]
        refine List.pairwise_append.2 ⟨hkept, List.pairwise_singleton _ _, fun hosts hhosts _ h => ?_⟩
        obtain rfl := List.mem_singleton.1 h
        rw [(hbefore _ hhosts).1, hlast]
        exact (hbefore _ hhosts).2

theorem findIdx_congr {α : Type} {l : List α} {p q : α → Bool} (hpq : ∀ x ∈ l, p x = q x) :
    l.findIdx p = l.findIdx q := by
  induction l with
  | nil => rfl
  | cons x rest ih =>
      rw [List.findIdx_cons, List.findIdx_cons, hpq x List.mem_cons_self,
        ih fun y hy => hpq y (List.mem_cons_of_mem _ hy)]

/-- The first rule of a group is the first one for its hosts. -/
theorem Grouped.firstIn_eq (hgroups : Grouped rules groups) (hg : g ∈ groups) :
    firstIn rules g = firstFor rules g.hostHeaders := by
  refine findIdx_congr fun rule hrule => ?_
  rw [decide_eq_decide, hgroups.mem_iff hg]
  exact and_iff_right hrule

/-- The groups divide the rules by their sets of hosts. -/
theorem groupByHosts_hostPartition (rules : List Planned) :
    HostPartition rules (groupByHosts rules) := by
  have hgroups := groupByHosts_grouped rules
  constructor
  case needed => exact hgroups.needed
  case distinct => exact List.pairwise_map.1 hgroups.distinct
  case inByteOrder =>
    intro g hg
    obtain ⟨rule, -, hhosts⟩ := hgroups.exists_rule (List.mem_map_of_mem hg)
    rw [← hhosts]
    exact (Text.sortedSet_sorted _).imp Text.lt_iff_bytes.1
  case hosts =>
    intro g hg rule hrule host
    rw [← ((hgroups.mem_iff hg).1 hrule).2]
    exact Text.mem_sortedSet
  case together =>
    intro rule hrule rule' hrule'
    rw [← hostHeaders_eq_iff]
    constructor
    · rintro ⟨g, hg, hmem, hmem'⟩
      exact ((hgroups.mem_iff hg).1 hmem).2.trans ((hgroups.mem_iff hg).1 hmem').2.symm
    · intro hhosts
      obtain ⟨g, hg, hfor⟩ := List.mem_map.1 (hgroups.covers rule hrule)
      exact ⟨g, hg, (hgroups.mem_iff hg).2 ⟨hrule, hfor.symm⟩,
        (hgroups.mem_iff hg).2 ⟨hrule', hhosts.symm.trans hfor.symm⟩⟩
  case inOrder =>
    intro g hg
    rw [hgroups.holds g hg]
    exact List.filter_sublist
  case byFirst =>
    refine (List.pairwise_map.1 (map_hostHeaders_sorted rules)).imp_of_mem fun hg hg' hlt => ?_
    rw [hgroups.firstIn_eq hg, hgroups.firstIn_eq hg']
    exact hlt
  case once => exact groupByHosts_perm rules

/-! ### Lists of rules that correspond -/

/-- A correspondence that grouping and giving priorities cannot tell apart. -/
structure Indistinct (R : Planned → Planned → Prop) : Prop where
  hosts : ∀ {rule rule'}, R rule rule' →
    rule.definition.hostHeaders = rule'.definition.hostHeaders
  depth : ∀ {rule rule'}, R rule rule' → rule.depth = rule'.depth
  priority : ∀ {rule rule'} (n : Nat), R rule rule' → R (rule.withPriority n) (rule'.withPriority n)

/-- Groups for the same hosts whose rules correspond. -/
def Group.Related (R : Planned → Planned → Prop) (g g' : Group) : Prop :=
  g.hostHeaders = g'.hostHeaders ∧ List.Forall₂ R g.rules g'.rules

/-- Either both lists of rules are given priorities, and the rules correspond, or both are refused
for the same reason. -/
inductive Outcomes (R : Planned → Planned → Prop) :
    Except Failure (List Planned) → Except Failure (List Planned) → Prop
  | assigned {planned planned' : List Planned} : List.Forall₂ R planned planned' →
      Outcomes R (.ok planned) (.ok planned')
  | refused (e : Failure) : Outcomes R (.error e) (.error e)

section Related

variable {R : Planned → Planned → Prop}

/-- Rules in front of those that are given priorities. -/
theorem Outcomes.append {x x' : Except Failure (List Planned)}
    (hrules : List.Forall₂ R rules rules') (hmore : Outcomes R x x') :
    Outcomes R (do let more ← x; return rules ++ more) (do let more ← x'; return rules' ++ more) := by
  cases hmore with
  | assigned hmore => exact .assigned (List.rel_append hrules hmore)
  | refused e => exact .refused e

variable (hR : Indistinct R)

include hR

theorem addToGroups_related (hrule : R rule rule')
    (hgroups : List.Forall₂ (Group.Related R) groups groups') :
    List.Forall₂ (Group.Related R) (addToGroups rule groups) (addToGroups rule' groups') := by
  induction hgroups with
  | nil => exact .cons ⟨hR.hosts hrule, .cons hrule .nil⟩ .nil
  | cons hg hrest ih =>
      rw [addToGroups, addToGroups, ← hR.hosts hrule, ← hg.1]
      split
      · exact .cons ⟨rfl, List.rel_append hg.2 (.cons hrule .nil)⟩ hrest
      · exact .cons hg ih

/-- Rules that correspond are grouped together. -/
theorem groupByHosts_related (hrules : List.Forall₂ R rules rules') :
    List.Forall₂ (Group.Related R) (groupByHosts rules) (groupByHosts rules') := by
  refine List.rel_foldl (P := List.Forall₂ (Group.Related R)) (R := R) ?_ .nil hrules
  exact fun _ _ hgroups _ _ hrule => addToGroups_related hR hrule hgroups

theorem spaced_related (start : Nat) (hrules : List.Forall₂ R rules rules') :
    List.Forall₂ R (spaced start rules) (spaced start rules') := by
  induction hrules generalizing start with
  | nil => exact .nil
  | cons hrule _ ih => exact .cons (hR.priority start hrule) (ih _)

theorem assignFrom_related (start : Nat)
    (hgroups : List.Forall₂ (Group.Related R) groups groups') :
    Outcomes R (assignFrom start groups) (assignFrom start groups') := by
  induction hgroups generalizing start with
  | nil => exact .assigned .nil
  | @cons g g' rest rest' hg _ ih =>
      have hlength := hg.2.length_eq
      have hsorted : List.Forall₂ R (deepestFirst g.rules) (deepestFirst g'.rules) :=
        forall₂_mergeSort (fun _ _ _ _ hrule hrule' => by rw [hR.depth hrule, hR.depth hrule']) hg.2
      rw [assignFrom, assignFrom, ← hlength, ← hg.1]
      split
      · exact .refused _
      · exact (ih _).append (spaced_related hR start hsorted)

/-- Rules that correspond are given the same priorities. -/
theorem assignPriorities_related (hgroups : List.Forall₂ (Group.Related R) groups groups') :
    Outcomes R (assignPriorities groups) (assignPriorities groups') :=
  assignFrom_related hR _ hgroups

end Related

/-! ### Hosts written in another way -/

/-- A rule that is another one but for the order in which its condition lists the hosts, and for
how often it lists them. -/
structure Respelled (rule rule' : Planned) : Prop where
  hosts : rule.SameHosts rule'
  /-- The other conditions are the same. -/
  conditions : ∀ field, field ≠ hostHeader →
    rule.definition.conditions.find? field = rule'.definition.conditions.find? field
  /-- What is not a condition is the same. -/
  rest : rule' = { rule with
    definition := { rule.definition with conditions := rule'.definition.conditions } }

/-- Rules that stand at the same place of two lists, with the same priority. -/
def SamePlace (rules rules' : List Planned) (rule rule' : Planned) : Prop :=
  ∃ (k n : Nat) (r r' : Planned), rules[k]? = some r ∧ rules'[k]? = some r' ∧
    rule = r.withPriority n ∧ rule' = r'.withPriority n

/-- Grouping and giving priorities cannot tell apart how hosts are written. -/
theorem samePlace_indistinct (hrules : List.Forall₂ Respelled rules rules') :
    Indistinct (SamePlace rules rules') := by
  have hplace : ∀ {k : Nat} {r r' : Planned}, rules[k]? = some r → rules'[k]? = some r' →
      Respelled r r' := by
    intro k r r' hr hr'
    obtain ⟨hk, rfl⟩ := List.getElem?_eq_some_iff.1 hr
    obtain ⟨hk', rfl⟩ := List.getElem?_eq_some_iff.1 hr'
    exact hrules.get hk hk'
  constructor
  case hosts =>
    rintro _ _ ⟨k, n, r, r', hr, hr', rfl, rfl⟩
    exact hostHeaders_eq_iff.2 (hplace hr hr').hosts
  case depth =>
    rintro _ _ ⟨k, n, r, r', hr, hr', rfl, rfl⟩
    rw [(hplace hr hr').rest]
    rfl
  case priority =>
    rintro _ _ n ⟨k, m, r, r', hr, hr', rfl, rfl⟩
    exact ⟨k, n, r, r', hr, hr', rfl, rfl⟩

/-- Rules whose hosts are written in another way stand at the same places. -/
theorem forall₂_samePlace (hrules : List.Forall₂ Respelled rules rules') :
    List.Forall₂ (SamePlace rules rules') rules rules' := by
  refine List.forall₂_iff_get.2 ⟨hrules.length_eq, fun k hk hk' => ?_⟩
  have hpriority : rules'[k].definition.priority = rules[k].definition.priority :=
    congrArg (·.definition.priority) (hrules.get hk hk').rest
  refine ⟨k, rules[k].definition.priority, rules[k], rules'[k], List.getElem?_eq_getElem hk,
    List.getElem?_eq_getElem hk', rfl, ?_⟩
  rw [← hpriority]
  rfl

/-- **The groups depend on nothing but the sets of hosts.**  They divide the rules by their sets of
hosts.  If the hosts of rules are written in another way, the groups are for the same hosts and hold
the rules at the same places; and priorities are given to the rules at the same places, or refused
for the same reason. -/
theorem groupByHosts_partition (rules : List Planned) :
    HostPartition rules (groupByHosts rules) ∧
      ∀ rules', List.Forall₂ Respelled rules rules' →
        List.Forall₂ (Group.Related (SamePlace rules rules')) (groupByHosts rules)
            (groupByHosts rules') ∧
          Outcomes (SamePlace rules rules') (assignPriorities (groupByHosts rules))
            (assignPriorities (groupByHosts rules')) := by
  refine ⟨groupByHosts_hostPartition rules, fun rules' hrules => ?_⟩
  have hindistinct := samePlace_indistinct hrules
  have hgroups := groupByHosts_related hindistinct (forall₂_samePlace hrules)
  exact ⟨hgroups, assignPriorities_related hindistinct hgroups⟩

/-- A planned rule whose condition lists some hosts. -/
def ruleForHosts (hosts : List String) (depth : Nat) : Planned where
  copilotRuleArn := "copilot-rule"
  service := "web"
  depth := depth
  definition := ⟨0, .ofList [(hostHeader, hosts)], none, [], .empty⟩

theorem respelled_ruleForHosts {hosts hosts' : List String} (depth : Nat)
    (hhosts : ∀ host, host ∈ hosts ↔ host ∈ hosts') :
    Respelled (ruleForHosts hosts depth) (ruleForHosts hosts' depth) where
  hosts host := by simpa [Planned.hostValues, ruleForHosts, Dict.ofList] using hhosts host
  conditions field hfield := by simp [ruleForHosts, Dict.ofList, hfield]
  rest := rfl

/-- Two rules for two hosts, which their conditions list in different orders, and between them one
for another host. -/
def spelled : List Planned :=
  [ruleForHosts ["b", "a"] 1, ruleForHosts ["c"] 1, ruleForHosts ["a", "b", "a"] 2]

/-- The same rules with their hosts written in another way. -/
def respelled : List Planned :=
  [ruleForHosts ["a", "b"] 1, ruleForHosts ["c", "c"] 1, ruleForHosts ["b", "a"] 2]

theorem groupByHosts_partition_respelled :
    List.Forall₂ Respelled spelled respelled ∧
      HostPartition spelled (groupByHosts spelled) ∧
      Outcomes (SamePlace spelled respelled) (assignPriorities (groupByHosts spelled))
        (assignPriorities (groupByHosts respelled)) := by
  have hrules : List.Forall₂ Respelled spelled respelled :=
    .cons (respelled_ruleForHosts 1 (by simp [or_comm]))
      (.cons (respelled_ruleForHosts 1 (by simp))
        (.cons (respelled_ruleForHosts 2 (by simp [or_comm])) .nil))
  obtain ⟨hpartition, hspelling⟩ := groupByHosts_partition spelled
  exact ⟨hrules, hpartition, (hspelling respelled hrules).2⟩

end Cutover.Rule
