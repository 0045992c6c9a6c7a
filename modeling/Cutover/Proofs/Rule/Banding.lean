/-
**Which priority a planned rule is given.**

The start of a band is worked out from the last priority that was given in the band in front of it.
As long as every group fits into its band, this comes to a priority that depends only on the place
of a rule: on the number of its group and on its place in the group, where the deepest rules come
first and rules of one depth keep their order.

Nothing stops the bands in front of the priorities of copilot rules.  How far they go depends on the
number of groups alone, and from the thirty-ninth group on they go too far.

Main definitions:

* `Cutover.Rule.DeepestFirst` — the rules of a group in the order of their depth;
* `Cutover.Rule.priorityAt`, `Cutover.Rule.banded` — priorities by place;
* `Cutover.Rule.assignInWords` — the same procedure in words of 32 bits, with every overflow found.

Main results:

* `Cutover.Rule.assignFrom_eq_banded`, `Cutover.Rule.assignFrom_eq_error` — what the procedure comes
  to, and with which group it fails;
* `Cutover.Rule.assignInWords_eq` — no step of it overflows;
* `Cutover.Rule.assignPriorities_exact` — **priorities are given by place**;
* `Cutover.Rule.assignPriorities_below_copilot_iff` — **thirty-eight groups fit in front of the
  copilot rules, and no more**.
-/
import Mathlib.Data.List.Forall2
import Mathlib.Data.List.Perm.Basic
import Cutover.Proofs.Rule.Grouping
import Cutover.Proofs.Sorting
import Cutover.Rule.Owner

set_option autoImplicit false

namespace Cutover.Rule

variable {rules ordered planned : List Planned} {groups : List Group} {rule : Planned} {k : Nat}

/-! ### The order in a group -/

/-- The rules of a group in the order of their depth. -/
structure DeepestFirst (rules ordered : List Planned) : Prop where
  perm : ordered.Perm rules
  sorted : ordered.Pairwise fun a b => b.depth ≤ a.depth
  /-- Rules of one depth keep their order. -/
  ties : ∀ n, ordered.filter (·.depth = n) = rules.filter (·.depth = n)

theorem deepestFirst_spec (rules : List Planned) : DeepestFirst rules (deepestFirst rules) := by
  have htrans : ∀ a b c : Planned, decide (b.depth ≤ a.depth) = true →
      decide (c.depth ≤ b.depth) = true → decide (c.depth ≤ a.depth) = true := by
    simp only [decide_eq_true_eq]
    intro a b c hab hbc
    omega
  have htotal : ∀ a b : Planned,
      (decide (b.depth ≤ a.depth) || decide (a.depth ≤ b.depth)) = true := by
    simp only [Bool.or_eq_true, decide_eq_true_eq]
    intro a b
    omega
  constructor
  case perm => exact List.mergeSort_perm _ _
  case sorted =>
    exact (List.pairwise_mergeSort htrans htotal rules).imp fun hab => of_decide_eq_true hab
  case ties =>
    intro n
    refine filter_mergeSort htrans htotal (fun a b ha hb => ?_) rules
    simp only [decide_eq_true_eq] at ha hb ⊢
    omega

@[simp] theorem length_deepestFirst (rules : List Planned) :
    (deepestFirst rules).length = rules.length := by
  simp [deepestFirst]

/-! ### Priorities by place -/

/-- The priority of the `i`-th rule of the `k`-th group, both counted from zero. -/
def priorityAt (k i : Nat) : Nat := 10000 + 1000 * k + 100 * i

/-- The rules of the `k`-th group with their priorities. -/
def numbered (k : Nat) (rules : List Planned) : List Planned :=
  rules.mapIdx fun i rule => rule.withPriority (priorityAt k i)

/-- The rules of groups with their priorities, group by group. -/
def banded (ordered : List (List Planned)) : List Planned := (ordered.mapIdx numbered).flatten

theorem mem_numbered : rule ∈ numbered k ordered ↔
    ∃ (i : Nat) (r : Planned), ordered[i]? = some r ∧ rule = r.withPriority (priorityAt k i) := by
  simp only [numbered, List.mem_mapIdx]
  constructor
  · rintro ⟨i, hi, rfl⟩
    exact ⟨i, ordered[i], List.getElem?_eq_getElem hi, rfl⟩
  · rintro ⟨i, r, hr, rfl⟩
    obtain ⟨hi, rfl⟩ := List.getElem?_eq_some_iff.1 hr
    exact ⟨i, hi, rfl⟩

theorem mem_banded {ordered : List (List Planned)} :
    rule ∈ banded ordered ↔
      ∃ (k : Nat) (o : List Planned), ordered[k]? = some o ∧ rule ∈ numbered k o := by
  simp only [banded, List.mem_flatten, List.mem_mapIdx]
  constructor
  · rintro ⟨-, ⟨k, hk, rfl⟩, hrule⟩
    exact ⟨k, ordered[k], List.getElem?_eq_getElem hk, hrule⟩
  · rintro ⟨k, o, ho, hrule⟩
    obtain ⟨hk, rfl⟩ := List.getElem?_eq_some_iff.1 ho
    exact ⟨_, ⟨k, hk, rfl⟩, hrule⟩

/-! ### What the procedure comes to -/

theorem spaced_eq_mapIdx (start : Nat) (rules : List Planned) :
    spaced start rules =
      rules.mapIdx fun i rule => rule.withPriority (start + priorityStep * i) := by
  induction rules generalizing start with
  | nil => rfl
  | cons first rest ih =>
      rw [spaced, ih, List.mapIdx_cons]
      congr 2
      funext i r
      rw [show start + priorityStep + priorityStep * i = start + priorityStep * (i + 1) by
        rw [Nat.mul_succ]; omega]

/-- The start of the `k`-th band. -/
def bandStart (k : Nat) : Nat := startingPriority + bandWidth * k

theorem bandStart_eq (k : Nat) : bandStart k = 10000 + 1000 * k := rfl

theorem spaced_eq_numbered (k : Nat) (rules : List Planned) :
    spaced (bandStart k) rules = numbered k rules :=
  spaced_eq_mapIdx (bandStart k) rules

/-- Behind a group that fits into its band comes the next band. -/
theorem nextBand_lastPriority {n : Nat} (hn : n ≤ bandCapacity) :
    nextBand (lastPriority (bandStart k) n) = bandStart (k + 1) := by
  simp only [bandCapacity, bandWidth, priorityStep] at hn
  simp only [nextBand, lastPriority, bandStart, startingPriority, bandWidth, priorityStep]
  omega

/-- If all groups fit, the rules of groups from the `k`-th on are given priorities by place. -/
theorem assignFrom_eq_banded (hfits : ∀ g ∈ groups, g.rules.length ≤ bandCapacity) (k : Nat) :
    assignFrom (bandStart k) groups =
      .ok (groups.mapIdx fun j g => numbered (k + j) (deepestFirst g.rules)).flatten := by
  induction groups generalizing k with
  | nil => rfl
  | cons g rest ih =>
      have hg := hfits g List.mem_cons_self
      have hrest := ih (fun g' hg' => hfits g' (List.mem_cons_of_mem _ hg')) (k + 1)
      have hshift : (fun j (g : Group) => numbered (k + (j + 1)) (deepestFirst g.rules)) =
          fun j g => numbered (k + 1 + j) (deepestFirst g.rules) := by
        funext j g
        rw [Nat.add_right_comm, Nat.add_assoc]
      rw [assignFrom, if_neg (by omega), nextBand_lastPriority hg, hrest, spaced_eq_numbered,
        List.mapIdx_cons, hshift]
      rfl

/-- The first group that does not fit is the one with which the procedure fails. -/
theorem assignFrom_eq_error {g : Group}
    (hg : groups.find? (fun g => bandCapacity < g.rules.length) = some g) (start : Nat) :
    assignFrom start groups =
      .error (.priorityBandExceeded g.hostHeaders g.rules.length bandCapacity) := by
  induction groups generalizing start with
  | nil => cases hg
  | cons first rest ih =>
      rw [assignFrom]
      by_cases hfirst : bandCapacity < first.rules.length
      · rw [List.find?_cons_of_pos (by simpa using hfirst)] at hg
        obtain rfl := Option.some.inj hg
        rw [if_pos hfirst]
      · rw [List.find?_cons_of_neg (by simpa using hfirst)] at hg
        rw [if_neg hfirst, ih hg]
        rfl

theorem banded_map (groups : List Group) (f : Group → List Planned) :
    banded (groups.map f) = (groups.mapIdx fun k g => numbered k (f g)).flatten := by
  simp [banded, List.mapIdx_eq_zipIdx_map, List.zipIdx_map, Function.comp_def]

/-- If all groups fit, the rules are given priorities by place. -/
theorem assignPriorities_eq_banded (hfits : ∀ g ∈ groups, g.rules.length ≤ bandCapacity) :
    assignPriorities groups = .ok (banded (groups.map fun g => deepestFirst g.rules)) := by
  have hassign := assignFrom_eq_banded hfits 0
  simp only [Nat.zero_add] at hassign
  rw [banded_map]
  exact hassign

/-- Priorities are given only if all groups fit. -/
theorem fits_of_assignPriorities (hp : assignPriorities groups = .ok planned) :
    ∀ g ∈ groups, g.rules.length ≤ bandCapacity := by
  intro g hg
  by_contra hover
  cases hfind : groups.find? (fun g => bandCapacity < g.rules.length) with
  | none =>
      have := List.find?_eq_none.1 hfind g hg
      simp at this
      omega
  | some g' =>
      rw [assignPriorities, assignFrom_eq_error hfind] at hp
      cases hp

/-! ### What holds of rules in bands -/

/-- Rules that were put into groups by their hosts, with priorities by place. -/
structure Placed (rules planned : List Planned) : Prop where
  /-- The `i`-th rule of the `k`-th group has the priority for this place, where the rules of a
  group are in the order of their depth. -/
  byPlace : ∃ ordered : List (List Planned), planned = banded ordered ∧ ordered.flatten.Perm rules ∧
    List.Forall₂ (fun g o => DeepestFirst (rulesFor g.hostHeaders rules) o)
      (groupByHosts rules) ordered
  increasing : planned.Pairwise fun a b => a.definition.priority < b.definition.priority
  distinct : (planned.map (·.definition.priority)).Nodup
  /-- The rules for the hosts of the `k`-th group have the `k`-th band to themselves. -/
  apart : ∀ (k : Nat) (g : Group), (groupByHosts rules)[k]? = some g → ∀ rule ∈ planned,
    rule.definition.hostHeaders = g.hostHeaders ↔
      10000 + 1000 * k ≤ rule.definition.priority ∧
        rule.definition.priority < 10000 + 1000 * (k + 1)
  /-- Among rules for the same hosts a deeper one comes first. -/
  deeper : ∀ a ∈ planned, ∀ b ∈ planned, a.definition.hostHeaders = b.definition.hostHeaders →
    b.depth < a.depth → a.definition.priority < b.definition.priority

/-- Groups for the same hosts stand at the same place. -/
theorem Grouped.index_unique (hgroups : Grouped rules groups) {k l : Nat} {g g' : Group}
    (hk : groups[k]? = some g) (hl : groups[l]? = some g')
    (hhosts : g.hostHeaders = g'.hostHeaders) : k = l := by
  obtain ⟨hlt, -⟩ := List.getElem?_eq_some_iff.1 hk
  refine (List.getElem?_inj (by simpa using hlt) hgroups.distinct).1 ?_
  rw [List.getElem?_map, List.getElem?_map, hk, hl, Option.map_some, Option.map_some, hhosts]

/-- Rules that are given priorities are given them by place. -/
theorem eq_banded_of_assignPriorities (hp : assignPriorities groups = .ok planned) :
    planned = banded (groups.map fun g => deepestFirst g.rules) := by
  rw [assignPriorities_eq_banded (fits_of_assignPriorities hp)] at hp
  exact (Except.ok.inj hp).symm

/-- Every rule that is given a priority has one of the ten places in a group for its hosts. -/
theorem exists_place (hp : assignPriorities (groupByHosts rules) = .ok planned)
    (hrule : rule ∈ planned) :
    ∃ (k : Nat) (g : Group) (i : Nat) (r : Planned), (groupByHosts rules)[k]? = some g ∧
      (deepestFirst g.rules)[i]? = some r ∧ i < 10 ∧ r.definition.hostHeaders = g.hostHeaders ∧
        rule = r.withPriority (priorityAt k i) := by
  rw [eq_banded_of_assignPriorities hp] at hrule
  obtain ⟨k, o, ho, hrule⟩ := mem_banded.1 hrule
  rw [List.getElem?_map] at ho
  obtain ⟨g, hg, rfl⟩ := Option.map_eq_some_iff.1 ho
  obtain ⟨i, r, hr, rfl⟩ := mem_numbered.1 hrule
  have hgroup : g ∈ groupByHosts rules := List.mem_of_getElem? hg
  refine ⟨k, g, i, r, hg, hr, ?_, ?_, rfl⟩
  · have hi := (List.getElem?_eq_some_iff.1 hr).1
    have hcount := fits_of_assignPriorities hp g hgroup
    rw [length_deepestFirst] at hi
    exact Nat.lt_of_lt_of_le hi hcount
  · have hmem : r ∈ g.rules := (deepestFirst_spec g.rules).perm.mem_iff.1 (List.mem_of_getElem? hr)
    rw [(groupByHosts_grouped rules).holds g hgroup] at hmem
    exact (mem_rulesFor.1 hmem).2

/-- A deeper rule of a group stands in front of the others. -/
theorem DeepestFirst.lt_of_deeper {o : List Planned} (hsort : DeepestFirst rules o) {i j : Nat}
    {a b : Planned} (ha : o[i]? = some a) (hb : o[j]? = some b) (hdeep : b.depth < a.depth) :
    i < j := by
  obtain ⟨hi, rfl⟩ := List.getElem?_eq_some_iff.1 ha
  obtain ⟨hj, rfl⟩ := List.getElem?_eq_some_iff.1 hb
  rcases Nat.lt_trichotomy i j with hij | rfl | hji
  · exact hij
  · omega
  · have := List.pairwise_iff_getElem.1 hsort.sorted j i hj hi hji
    omega

/-- Rules that are given priorities have them by place. -/
theorem placed_of_assignPriorities (hp : assignPriorities (groupByHosts rules) = .ok planned) :
    Placed rules planned := by
  constructor
  case byPlace =>
    refine ⟨_, eq_banded_of_assignPriorities hp, ?_, ?_⟩
    · refine .trans ?_ (groupByHosts_perm rules)
      rw [← List.flatMap_def]
      exact List.Perm.flatMap_left _ fun g _ => (deepestFirst_spec g.rules).perm
    · refine List.forall₂_map_right_iff.2 (List.forall₂_same.2 fun g hg => ?_)
      rw [← (groupByHosts_grouped rules).holds g hg]
      exact deepestFirst_spec g.rules
  case increasing => exact (assignFrom_sorted hp).2
  case distinct => exact assignPriorities_nodup hp
  case apart =>
    intro k g hg rule hrule
    obtain ⟨l, g', i, r, hg', hr, hi, hhosts, rfl⟩ := exists_place hp hrule
    have hplace : r.definition.hostHeaders = g.hostHeaders ↔ l = k := by
      rw [hhosts]
      refine ⟨(groupByHosts_grouped rules).index_unique hg' hg, ?_⟩
      rintro rfl
      rw [Option.some.inj (hg'.symm.trans hg)]
    change r.definition.hostHeaders = g.hostHeaders ↔
      10000 + 1000 * k ≤ priorityAt l i ∧ priorityAt l i < 10000 + 1000 * (k + 1)
    rw [hplace, priorityAt]
    omega
  case deeper =>
    intro a ha b hb hhosts hdeep
    obtain ⟨k, g, i, ra, hg, hra, -, hag, rfl⟩ := exists_place hp ha
    obtain ⟨l, g', j, rb, hg', hrb, -, hbg, rfl⟩ := exists_place hp hb
    obtain rfl := (groupByHosts_grouped rules).index_unique hg hg'
      (hag.symm.trans (hhosts.trans hbg))
    obtain rfl := Option.some.inj (hg.symm.trans hg')
    have hij := (deepestFirst_spec g.rules).lt_of_deeper hra hrb hdeep
    simp only [Planned.withPriority, priorityAt]
    omega

/-! ### In words of 32 bits -/

/-- The sum of two words, unless it overflows. -/
def checkedAdd (a b : UInt32) : Option UInt32 :=
  if a.toNat + b.toNat < UInt32.size then some (a + b) else none

/-- The product of two words, unless it overflows. -/
def checkedMul (a b : UInt32) : Option UInt32 :=
  if a.toNat * b.toNat < UInt32.size then some (a * b) else none

theorem checkedAdd_eq {a b : UInt32} {n : Nat} (hn : a.toNat + b.toNat = n)
    (hlt : n < UInt32.size) : ∃ c, checkedAdd a b = some c ∧ c.toNat = n := by
  refine ⟨a + b, if_pos (by omega), ?_⟩
  rw [UInt32.toNat_add, hn]
  exact Nat.mod_eq_of_lt hlt

theorem checkedMul_eq {a b : UInt32} {n : Nat} (hn : a.toNat * b.toNat = n)
    (hlt : n < UInt32.size) : ∃ c, checkedMul a b = some c ∧ c.toNat = n := by
  refine ⟨a * b, if_pos (by omega), ?_⟩
  rw [UInt32.toNat_mul, hn]
  exact Nat.mod_eq_of_lt hlt

/-- Rules at regular steps from a priority on, and the last priority that was given.  The priority
behind the last rule is worked out as well, though no rule is given it. -/
def spacedInWords : UInt32 → UInt32 → List Planned → Option (List Planned × UInt32)
  | _, last, [] => some ([], last)
  | priority, _, rule :: rest => do
    let next ← checkedAdd priority 100
    let (more, last) ← spacedInWords next priority rest
    return (rule.withPriority priority.toNat :: more, last)

/-- The start of the first band behind a priority. -/
def nextBandInWords (last : UInt32) : Option UInt32 := do
  let band ← checkedAdd (last / 1000) 1
  checkedMul band 1000

/-- The rules of groups whose first band starts at a priority, or the first group that does not
fit; nothing at all if a step overflows. -/
def assignInWords : UInt32 → List Group → Option (Except Failure (List Planned))
  | _, [] => some (.ok [])
  | start, g :: rest =>
    if bandCapacity < g.rules.length then
      some (.error (.priorityBandExceeded g.hostHeaders g.rules.length bandCapacity))
    else do
      let (these, last) ← spacedInWords start start (deepestFirst g.rules)
      let next ← nextBandInWords last
      let more ← assignInWords next rest
      return more.map (these ++ ·)

/-- No step inside a group overflows if the priority behind its last rule is a word. -/
theorem spacedInWords_eq {rules : List Planned} (priority last : UInt32)
    (hfit : priority.toNat + priorityStep * rules.length < UInt32.size) :
    ∃ last', spacedInWords priority last rules = some (spaced priority.toNat rules, last') ∧
      last'.toNat =
        if rules = [] then last.toNat else lastPriority priority.toNat rules.length := by
  induction rules generalizing priority last with
  | nil => exact ⟨last, rfl, rfl⟩
  | cons rule rest ih =>
      simp only [List.length_cons, priorityStep] at hfit ih
      obtain ⟨next, hnext, hnat⟩ :=
        checkedAdd_eq (a := priority) (b := 100) (n := priority.toNat + 100) rfl (by omega)
      obtain ⟨last', hrest, hlast⟩ := ih next priority (by omega)
      refine ⟨last', ?_, ?_⟩
      · rw [spacedInWords, hnext, Option.bind_eq_bind, Option.bind_some, hrest, hnat]
        rfl
      · rw [hlast, if_neg (List.cons_ne_nil _ _)]
        cases rest with
        | nil => rfl
        | cons _ _ =>
            simp only [if_neg (List.cons_ne_nil _ _), lastPriority, List.length_cons, priorityStep]
            omega

theorem nextBandInWords_eq (last : UInt32) (hfit : nextBand last.toNat < UInt32.size) :
    ∃ next, nextBandInWords last = some next ∧ next.toNat = nextBand last.toNat := by
  simp only [nextBand, bandWidth] at hfit ⊢
  obtain ⟨band, hband, hnat⟩ :=
    checkedAdd_eq (a := last / 1000) (b := 1) (n := last.toNat / 1000 + 1) rfl (by omega)
  obtain ⟨next, hnext, hnat'⟩ :=
    checkedMul_eq (a := band) (b := 1000) (n := (last.toNat / 1000 + 1) * 1000)
      (by rw [hnat]; rfl) (by omega)
  exact ⟨next, by rw [nextBandInWords, hband]; exact hnext, hnat'⟩

/-- If the start of the band behind the next one of all groups is a word, no step overflows. -/
theorem assignInWords_eq {start : UInt32} (hstart : start.toNat = bandStart k)
    (hfit : bandStart (k + groups.length + 1) < UInt32.size) :
    assignInWords start groups = some (assignFrom (bandStart k) groups) := by
  induction groups generalizing start k with
  | nil => rfl
  | cons g rest ih =>
      have hk := bandStart_eq k
      have hnext := bandStart_eq (k + 1)
      have hend := bandStart_eq (k + (g :: rest).length + 1)
      have hshift : k + (g :: rest).length + 1 = k + 1 + rest.length + 1 := by
        rw [List.length_cons]
        omega
      rw [assignInWords, assignFrom]
      split
      · rfl
      · rename_i hg
        have hg : g.rules.length ≤ bandCapacity := by omega
        have hroom : start.toNat + priorityStep * (deepestFirst g.rules).length < UInt32.size := by
          simp only [bandCapacity, bandWidth, priorityStep] at hg
          rw [length_deepestFirst, hstart, priorityStep]
          omega
        obtain ⟨last, hspaced, hlast⟩ := spacedInWords_eq start start hroom
        -- an empty group leaves the last priority at the start of its band
        have hlast : last.toNat = lastPriority (bandStart k) g.rules.length := by
          rw [hlast, length_deepestFirst, hstart]
          split
          · rename_i hnone
            have hzero : g.rules.length = 0 := by
              rw [← length_deepestFirst, hnone, List.length_nil]
            rw [hzero, lastPriority, Nat.zero_sub, Nat.zero_mul, Nat.add_zero]
          · rfl
        have hband : nextBand last.toNat = bandStart (k + 1) := by
          rw [hlast, nextBand_lastPriority hg]
        obtain ⟨next, hnextWord, hnat⟩ := nextBandInWords_eq last (by omega)
        have hrest := ih (hnat.trans hband) (hshift ▸ hfit)
        rw [hspaced, hstart, nextBand_lastPriority hg]
        simp only [Option.bind_eq_bind, Option.bind_some, hnextWord, hrest]
        cases assignFrom (bandStart (k + 1)) rest <;> rfl

/-- In words of 32 bits the procedure comes to the same if the start of the second band behind all
groups is a word. -/
theorem assignPriorities_inWords (hfit : 10000 + 1000 * (groups.length + 1) < UInt32.size) :
    assignInWords 10000 groups = some (assignPriorities groups) := by
  refine assignInWords_eq (k := 0) rfl ?_
  rw [Nat.zero_add]
  exact hfit

/-- **Priorities are given by place.**  Giving priorities fails just if some group has more than ten
rules, and then it names the first such group.  Otherwise the `i`-th rule of the `k`-th group has
the priority for this place, where the rules of a group are in the order of their depth.  As long as
the start of the second band behind all groups is a word of 32 bits, no step overflows. -/
theorem assignPriorities_exact (rules : List Planned)
    (hfit : 10000 + 1000 * ((groupByHosts rules).length + 1) < UInt32.size) :
    ((∃ e, assignPriorities (groupByHosts rules) = .error e) ↔
        ∃ g ∈ groupByHosts rules, 10 < g.rules.length) ∧
      (∀ g, (groupByHosts rules).find? (fun g => 10 < g.rules.length) = some g →
        assignPriorities (groupByHosts rules) =
          .error (.priorityBandExceeded g.hostHeaders g.rules.length 10)) ∧
      (∀ planned, assignPriorities (groupByHosts rules) = .ok planned → Placed rules planned) ∧
      assignInWords 10000 (groupByHosts rules) = some (assignPriorities (groupByHosts rules)) := by
  refine ⟨⟨?_, ?_⟩, fun g hg => assignFrom_eq_error hg _, fun _ => placed_of_assignPriorities,
    assignPriorities_inWords hfit⟩
  · rintro ⟨e, he⟩
    by_contra hnone
    have hfits : ∀ g ∈ groupByHosts rules, g.rules.length ≤ bandCapacity := by
      intro g hg
      by_contra hover
      exact hnone ⟨g, hg, Nat.lt_of_not_le hover⟩
    rw [assignPriorities_eq_banded hfits] at he
    cases he
  · rintro ⟨g, hg, hover⟩
    cases hp : assignPriorities (groupByHosts rules) with
    | error e => exact ⟨e, rfl⟩
    | ok planned =>
        have := fits_of_assignPriorities hp g hg
        simp only [bandCapacity, bandWidth, priorityStep] at this
        omega

/-- A planned rule for a host, for paths of some depth. -/
def hostRule (host : String) (depth : Nat) : Planned where
  copilotRuleArn := host
  service := "web"
  depth := depth
  definition := ⟨0, .ofList [(hostHeader, [host])], none, [], .empty⟩

/-- Two rules for one host, and between them one for another. -/
def threeRules : List Planned := [hostRule "a" 1, hostRule "b" 1, hostRule "a" 2]

theorem assignPriorities_exact_two_hosts :
    10000 + 1000 * ((groupByHosts threeRules).length + 1) < UInt32.size ∧
      ∃ planned, assignPriorities (groupByHosts threeRules) = .ok planned ∧
        Placed threeRules planned := by
  have hfit : 10000 + 1000 * ((groupByHosts threeRules).length + 1) < UInt32.size := by
    decide +kernel
  have hfits : ∀ g ∈ groupByHosts threeRules, g.rules.length ≤ bandCapacity := by
    decide +kernel
  have hp := assignPriorities_eq_banded hfits
  exact ⟨hfit, _, hp, (assignPriorities_exact _ hfit).2.2.1 _ hp⟩

/-! ### In front of the copilot rules -/

/-- **Thirty-eight groups fit in front of the copilot rules, and no more.**  Priorities that are
given start with the first band, and they are all below those of copilot rules just if there are
thirty-eight groups at most.  In words of 32 bits they are the same, as long as the start of the
second band behind all groups is such a word. -/
theorem assignPriorities_below_copilot_iff
    (hp : assignPriorities (groupByHosts rules) = .ok planned) :
    (∀ rule ∈ planned, startingPriority ≤ rule.definition.priority) ∧
      ((∀ rule ∈ planned, rule.definition.priority < copilotPriority) ↔
        (groupByHosts rules).length ≤ 38) ∧
      (10000 + 1000 * ((groupByHosts rules).length + 1) < UInt32.size →
        assignInWords 10000 (groupByHosts rules) = some (.ok planned)) := by
  refine ⟨(assignFrom_sorted hp).1, ⟨?_, ?_⟩, fun hfit => hp ▸ assignPriorities_inWords hfit⟩
  · intro hbelow
    by_contra hmany
    -- the first rule of the thirty-ninth group has the priority of the first copilot rule
    have hlt : 38 < (groupByHosts rules).length := Nat.lt_of_not_le hmany
    have hg : (groupByHosts rules)[38]? = some (groupByHosts rules)[38] :=
      List.getElem?_eq_getElem hlt
    have hnone := (groupByHosts_grouped rules).needed _ (List.mem_of_getElem? hg)
    have hfirst : 0 < (deepestFirst (groupByHosts rules)[38].rules).length := by
      rw [length_deepestFirst]
      exact List.length_pos_of_ne_nil hnone
    have hmem : (deepestFirst (groupByHosts rules)[38].rules)[0].withPriority (priorityAt 38 0) ∈
        planned := by
      rw [eq_banded_of_assignPriorities hp]
      refine mem_banded.2 ⟨38, _, ?_, mem_numbered.2 ⟨0, _, List.getElem?_eq_getElem hfirst, rfl⟩⟩
      rw [List.getElem?_map, hg, Option.map_some]
    exact Nat.lt_irrefl copilotPriority (hbelow _ hmem)
  · intro hfew rule hrule
    obtain ⟨k, g, i, r, hg, -, hi, -, rfl⟩ := exists_place hp hrule
    have hk := (List.getElem?_eq_some_iff.1 hg).1
    simp only [Planned.withPriority, priorityAt, copilotPriority]
    omega

theorem assignPriorities_below_copilot_iff_one_host :
    ∃ planned, assignPriorities (groupByHosts [hostRule "a" 1]) = .ok planned ∧
      assignInWords 10000 (groupByHosts [hostRule "a" 1]) = some (.ok planned) ∧
      ∀ rule ∈ planned, startingPriority ≤ rule.definition.priority ∧
        rule.definition.priority < copilotPriority := by
  have hp : assignPriorities (groupByHosts [hostRule "a" 1]) =
      .ok [(hostRule "a" 1).withPriority 10000] := by
    decide +kernel
  obtain ⟨hlow, hbelow, hwords⟩ := assignPriorities_below_copilot_iff hp
  refine ⟨_, hp, hwords (by decide +kernel), fun rule hrule => ⟨hlow rule hrule, ?_⟩⟩
  exact hbelow.2 (by decide +kernel) rule hrule

/-- Rules for thirty-nine hosts are given priorities, and the last of them the first priority of
copilot rules. -/
theorem assignPriorities_reaches_copilot :
    ∃ rules planned, assignPriorities (groupByHosts rules) = .ok planned ∧
      ∃ rule ∈ planned, rule.definition.priority = copilotPriority := by
  have hlast : ((assignPriorities (groupByHosts ((List.range 39).map fun n =>
      hostRule (toString n) 1))).toOption.bind fun planned =>
        planned.getLast?.map (·.definition.priority)) = some copilotPriority := by
    decide +kernel
  cases hp : assignPriorities (groupByHosts ((List.range 39).map fun n =>
      hostRule (toString n) 1)) with
  | error e =>
      rw [hp] at hlast
      cases hlast
  | ok planned =>
      rw [hp] at hlast
      obtain ⟨rule, hrule, hpriority⟩ := Option.map_eq_some_iff.1 hlast
      exact ⟨_, planned, hp, rule, List.mem_of_getLast? hrule, hpriority⟩

end Cutover.Rule
