/-
**Every condition of a rule is accounted for.**

Reading a rule goes through its conditions once.  A condition counts if its field is one of those
that can be in a rule any number of times, or if it is the first one about a header; its values then
come behind those that its field has so far.  Every other condition is left out, and its field is
named, once.  Which conditions count is said here by selecting from the whole list, and not by going
through it.

Main definitions:

* `Cutover.Wire.counted`, `Cutover.Wire.leftOut` — the conditions that count for a field, and those
  that are left out;
* `Cutover.Wire.Condition.asked` — the values that a condition asks of its field;
* `Cutover.Wire.Accounts` — what gathered conditions have to do with the conditions of a rule.

Main results:

* `Cutover.Wire.counted_perm` — every condition counts for a field or is left out, and not both;
* `Cutover.Wire.Accounts.read` — one more condition is accounted for;
* `Cutover.Wire.counted_eq_of_leftOut` — if no field is left out, every condition counts;
* `Cutover.Wire.toListenerRule_accounts` — **every condition of a rule is accounted for**.
-/
import Mathlib.Data.List.Induction
import Cutover.Proofs.Wire.RuleRoundTrip

set_option autoImplicit false

namespace Cutover

open Rule (hostHeader pathPattern sourceIp httpHeader)

namespace Wire

variable {cs : List Condition} {c : Condition} {g : Gathered} {field : String}

/-! ### Which conditions count -/

/-- The fields that a rule can have any number of conditions for. -/
def plainFields : List String := [hostHeader, pathPattern, sourceIp]

/-- The fields that conditions can count for. -/
def placedFields : List String := plainFields ++ [httpHeader]

/-- The values that a condition has in the place for a field, if it has that. -/
def Condition.place? (c : Condition) (field : String) : Option (List String) :=
  if field = Rule.hostHeader then c.hostHeader
  else if field = Rule.pathPattern then c.pathPattern
  else if field = Rule.sourceIp then c.sourceIp
  else c.httpHeader.map (·.values)

/-- The values that a condition asks of its field: those in the place for it, or the plain ones. -/
def Condition.asked (c : Condition) (field : String) : List String :=
  (c.place? field).getD (c.values.getD [])

/-- The conditions for a field. -/
def conditionsFor (field : String) (cs : List Condition) : List Condition :=
  cs.filter (·.field = some field)

/-- The conditions that count for a field: all of them, or the first one about a header. -/
def counted (field : String) (cs : List Condition) : List Condition :=
  if field ∈ plainFields then conditionsFor field cs
  else if field = httpHeader then (conditionsFor httpHeader cs).take 1
  else []

/-- The conditions that are left out: all but the first one about a header, and but those for a
field that a rule can have any number of conditions for. -/
def leftOut (cs : List Condition) : List Condition :=
  (cs.eraseP (·.field = some httpHeader)).filter fun c =>
    ∀ field ∈ plainFields, c.field ≠ some field

/-- One more condition counts for a field. -/
def Counts (cs : List Condition) (c : Condition) (field : String) : Prop :=
  c.field = some field ∧
    (field ∈ plainFields ∨ field = httpHeader ∧ conditionsFor httpHeader cs = [])

theorem httpHeader_not_plain : httpHeader ∉ plainFields := by decide

theorem Counts.placed (hc : Counts cs c field) : field ∈ placedFields := by
  obtain ⟨-, hplain | ⟨rfl, -⟩⟩ := hc
  · exact List.mem_append_left _ hplain
  · exact List.mem_append_right _ List.mem_cons_self

theorem conditionsFor_append (field : String) (cs : List Condition) (c : Condition) :
    conditionsFor field (cs ++ [c]) =
      conditionsFor field cs ++ if c.field = some field then [c] else [] := by
  rw [conditionsFor, List.filter_append]
  by_cases hfield : c.field = some field <;> simp [conditionsFor, hfield]

theorem conditionsFor_eq_nil :
    conditionsFor field cs = [] ↔ ∀ b ∈ cs, ¬ b.field = some field := by
  simp [conditionsFor, List.filter_eq_nil_iff]

theorem counted_of_counts (hc : Counts cs c field) :
    counted field (cs ++ [c]) = counted field cs ++ [c] := by
  obtain ⟨hfield, hplain | ⟨rfl, hfirst⟩⟩ := hc
  · rw [counted, counted, if_pos hplain, if_pos hplain, conditionsFor_append, if_pos hfield]
  · simp only [counted, if_neg httpHeader_not_plain, if_true, conditionsFor_append, if_pos hfield,
      hfirst]
    rfl

theorem counted_of_not_counts (hc : ¬ Counts cs c field) :
    counted field (cs ++ [c]) = counted field cs := by
  by_cases hfield : c.field = some field
  · have hnot : ¬ (field ∈ plainFields ∨ field = httpHeader ∧ conditionsFor httpHeader cs = []) :=
      fun h => hc ⟨hfield, h⟩
    rw [not_or, not_and] at hnot
    rw [counted, counted, if_neg hnot.1, if_neg hnot.1]
    by_cases hheader : field = httpHeader
    · -- there was one about a header in front of it
      subst hheader
      obtain ⟨b, rest, hb⟩ := List.exists_cons_of_ne_nil (hnot.2 rfl)
      rw [if_pos rfl, if_pos rfl, conditionsFor_append, hb]
      rfl
    · rw [if_neg hheader, if_neg hheader]
  · have hsame : ∀ k, c.field ≠ some k → conditionsFor k (cs ++ [c]) = conditionsFor k cs := by
      intro k hk
      rw [conditionsFor_append, if_neg hk, List.append_nil]
    rw [counted, counted, hsame field hfield]
    by_cases hheader : field = httpHeader
    · rw [← hheader, hsame field hfield]
    · rw [if_neg hheader, if_neg hheader]

theorem leftOut_of_counts (hc : Counts cs c field) : leftOut (cs ++ [c]) = leftOut cs := by
  obtain ⟨hfield, hplain | ⟨rfl, hfirst⟩⟩ := hc
  · have hkeep : [c].eraseP (·.field = some httpHeader) = [c] := by
      apply List.eraseP_of_forall_not
      have hheader : field ≠ httpHeader := fun heq => httpHeader_not_plain (heq ▸ hplain)
      simpa [hfield] using hheader
    have hlast : ([c].filter fun c => ∀ field ∈ plainFields, c.field ≠ some field) = [] := by
      simpa [hfield] using hplain
    rw [leftOut, leftOut, List.eraseP_append]
    split
    · rw [List.filter_append, hlast, List.append_nil]
    · rename_i hnone
      rw [hkeep, List.filter_append, hlast, List.append_nil,
        List.eraseP_of_forall_not (by simpa using hnone)]
  · have hnone := conditionsFor_eq_nil.1 hfirst
    rw [leftOut, leftOut, List.eraseP_append_right _ (by simpa using hnone),
      List.eraseP_cons_of_pos (by simpa using hfield), List.append_nil,
      List.eraseP_of_forall_not (by simpa using hnone)]

theorem leftOut_of_not_counts (hc : ∀ field, ¬ Counts cs c field) :
    leftOut (cs ++ [c]) = leftOut cs ++ [c] := by
  have hplain : ∀ field ∈ plainFields, c.field ≠ some field :=
    fun field hplain hfield => hc field ⟨hfield, .inl hplain⟩
  have hlast : ([c].filter fun c => ∀ field ∈ plainFields, c.field ≠ some field) = [c] :=
    List.filter_cons_of_pos (decide_eq_true hplain)
  rw [leftOut, leftOut, List.eraseP_append]
  split
  · rw [List.filter_append, hlast]
  · rename_i hnone
    have hfirst : ∀ b ∈ cs, ¬ b.field = some httpHeader := by simpa using hnone
    have hkeep : [c].eraseP (·.field = some httpHeader) = [c] := by
      apply List.eraseP_of_forall_not
      have hheader : c.field ≠ some httpHeader :=
        fun hfield => hc httpHeader ⟨hfield, .inr ⟨rfl, conditionsFor_eq_nil.2 hfirst⟩⟩
      simpa using hheader
    rw [hkeep, List.filter_append, hlast, List.eraseP_of_forall_not (by simpa using hfirst)]

/-- One more item under one of different keys is one more item of all. -/
theorem perm_flatMap_of_one {α : Type} {f f' : String → List α} {l : List String} {key : String}
    {x : α} (hnodup : l.Nodup) (hkey : key ∈ l) (hown : f' key = f key ++ [x])
    (hothers : ∀ k, k ≠ key → f' k = f k) : (l.flatMap f').Perm (l.flatMap f ++ [x]) := by
  induction l with
  | nil => cases hkey
  | cons k rest ih =>
      obtain ⟨hfresh, hrest⟩ := List.nodup_cons.1 hnodup
      rw [List.flatMap_cons, List.flatMap_cons]
      by_cases hk : k = key
      · subst hk
        have hsame : rest.flatMap f' = rest.flatMap f :=
          List.flatMap_congr fun j hj => hothers j fun heq => hfresh (heq ▸ hj)
        rw [hown, hsame, List.append_assoc, List.append_assoc]
        exact List.perm_append_comm.append_left (f k)
      · have hlater := (List.mem_cons.1 hkey).resolve_left (Ne.symm hk)
        rw [hothers k hk, List.append_assoc]
        exact (ih hrest hlater).append_left (f k)

/-- Every condition counts for a field or is left out, and not both. -/
theorem counted_perm (cs : List Condition) :
    (placedFields.flatMap (counted · cs) ++ leftOut cs).Perm cs := by
  induction cs using List.reverseRecOn with
  | nil => exact .refl _
  | append_singleton cs c ih =>
      refine List.Perm.trans ?_ (ih.append_right [c])
      by_cases hc : ∃ field, Counts cs c field
      · obtain ⟨field, hc⟩ := hc
        have hothers : ∀ k, k ≠ field → counted k (cs ++ [c]) = counted k cs :=
          fun k hk => counted_of_not_counts fun h => hk (Option.some.inj (h.1.symm.trans hc.1))
        have hmore := perm_flatMap_of_one (by decide : placedFields.Nodup) hc.placed
          (counted_of_counts hc) hothers
        rw [leftOut_of_counts hc, List.append_assoc]
        refine (hmore.append_right _).trans ?_
        rw [List.append_assoc]
        exact List.perm_append_comm.append_left _
      · have hnone : ∀ field, ¬ Counts cs c field := fun field h => hc ⟨field, h⟩
        have hsame : placedFields.flatMap (counted · (cs ++ [c])) =
            placedFields.flatMap (counted · cs) :=
          List.flatMap_congr fun field _ => counted_of_not_counts (hnone field)
        rw [leftOut_of_not_counts hnone, hsame, List.append_assoc]

/-! ### What is gathered -/

/-- A name at the end is kept if it is the first of its kind. -/
theorem eraseDups_append_singleton (names : List String) (name : String) :
    (names ++ [name]).eraseDups =
      if name ∈ names then names.eraseDups else names.eraseDups ++ [name] := by
  rw [List.eraseDups_append]
  by_cases hname : name ∈ names
  · simp [List.removeAll, hname]
  · have hsingle : [name].eraseDups = [name] := rfl
    simp [List.removeAll, hname, hsingle]

/-- What gathered conditions have to do with the conditions of a rule: a field has the values of
those that count for it, the header is that of the first one about a header, and the fields of those
that are left out are named in their order. -/
structure Accounts (cs : List Condition) (g : Gathered) : Prop where
  values : ∀ field, g.conditions.find? field =
    if counted field cs = [] then none else some ((counted field cs).flatMap (·.asked field))
  header : g.httpHeaderName =
    ((cs.find? (·.field = some httpHeader)).bind (·.httpHeader)).bind (·.name)
  unsupported : g.unsupported = ((leftOut cs).filterMap (·.field)).eraseDups

namespace Accounts

theorem empty : Accounts [] .empty := ⟨fun _ => by simp [counted, conditionsFor]; rfl, rfl, rfl⟩

/-- No header is read so far where there is no condition about one. -/
theorem isWithoutHeader_iff (h : Accounts cs g) :
    g.isWithoutHeader = true ↔ conditionsFor httpHeader cs = [] := by
  have hcounted : counted httpHeader cs = [] ↔ conditionsFor httpHeader cs = [] := by
    rw [counted, if_neg httpHeader_not_plain, if_pos rfl, List.take_eq_nil_iff]
    simp
  have hvalues := h.values httpHeader
  simp only [Gathered.isWithoutHeader, Dict.contains, Bool.and_eq_true, Bool.not_eq_true']
  constructor
  · rintro ⟨-, hnone⟩
    rw [← hcounted]
    by_contra hsome
    rw [if_neg hsome] at hvalues
    rw [hvalues] at hnone
    cases hnone
  · intro hnone
    have hfirst : cs.find? (·.field = some httpHeader) = none := by
      simpa using conditionsFor_eq_nil.1 hnone
    rw [h.header, hvalues, if_pos (hcounted.2 hnone), hfirst]
    exact ⟨rfl, rfl⟩

/-- What becomes of a condition that counts. -/
theorem read_of_counts (h : Accounts cs g) (hc : Counts cs c field) :
    g.read c = { g.add field (c.asked field) with
      httpHeaderName :=
        if field = httpHeader then c.httpHeader.bind (·.name) else g.httpHeaderName } := by
  obtain ⟨hfield, hplain | ⟨rfl, hfirst⟩⟩ := hc
  · simp only [plainFields, List.mem_cons, List.not_mem_nil, or_false] at hplain
    rcases hplain with rfl | rfl | rfl <;> rw [Gathered.read, hfield] <;> rfl
  · have hwithout := h.isWithoutHeader_iff.2 hfirst
    rw [Gathered.read, hfield]
    simp only [hwithout, and_self, if_true]
    rfl

/-- What becomes of a condition that is left out: its field is named, if it has one. -/
theorem read_of_not_counts (h : Accounts cs g) (hc : ∀ field, ¬ Counts cs c field) :
    g.read c = c.field.elim g g.name := by
  rw [Gathered.read]
  cases hfield : c.field with
  | none => rfl
  | some field =>
      have hplain : field ∉ plainFields := fun hplain => hc field ⟨hfield, .inl hplain⟩
      have hheader : ¬ (field = httpHeader ∧ g.isWithoutHeader = true) := fun hfirst =>
        hc field ⟨hfield, .inr ⟨hfirst.1, h.isWithoutHeader_iff.1 hfirst.2⟩⟩
      simp only [plainFields, List.mem_cons, List.not_mem_nil, or_false, not_or] at hplain
      simp only [if_neg hplain.1, if_neg hplain.2.1, if_neg hplain.2.2, if_neg hheader,
        Option.elim_some]

/-- One more condition is accounted for if it counts. -/
theorem read_counted (h : Accounts cs g) (hc : Counts cs c field) :
    Accounts (cs ++ [c]) (g.read c) := by
  rw [h.read_of_counts hc]
  constructor
  · intro k
    have hfound := g.find?_add field (c.asked field) k
    by_cases hk : k = field
    · subst hk
      have hold : (g.conditions.find? k).getD [] = (counted k cs).flatMap (·.asked k) := by
        rw [h.values k]
        by_cases hnone : counted k cs = []
        · rw [if_pos hnone, hnone]
          rfl
        · rw [if_neg hnone]
          rfl
      rw [if_pos rfl, hold] at hfound
      have hsome : counted k cs ++ [c] ≠ [] := by simp
      rw [counted_of_counts hc, if_neg hsome, List.flatMap_append, List.flatMap_singleton]
      exact hfound
    · have hother : ¬ Counts cs c k :=
        fun hother => hk (Option.some.inj (hother.1.symm.trans hc.1))
      rw [if_neg hk, h.values k] at hfound
      rw [counted_of_not_counts hother]
      exact hfound
  · rw [List.find?_append]
    obtain ⟨hfield, hplain | ⟨rfl, hfirst⟩⟩ := hc
    · have hne : field ≠ httpHeader := fun heq => httpHeader_not_plain (heq ▸ hplain)
      have hlast : [c].find? (·.field = some httpHeader) = none := by simpa [hfield] using hne
      rw [hlast, Option.or_none]
      exact (if_neg hne).trans h.header
    · have hnone : cs.find? (·.field = some httpHeader) = none := by
        simpa using conditionsFor_eq_nil.1 hfirst
      have hlast : [c].find? (·.field = some httpHeader) = some c := by simp [hfield]
      rw [hnone, hlast]
      rfl
  · rw [leftOut_of_counts hc]
    exact h.unsupported

/-- One more condition is accounted for if it is left out. -/
theorem read_leftOut (h : Accounts cs g) (hc : ∀ field, ¬ Counts cs c field) :
    Accounts (cs ++ [c]) (g.read c) := by
  have hkept : (g.read c).conditions = g.conditions ∧
      (g.read c).httpHeaderName = g.httpHeaderName := by
    rw [h.read_of_not_counts hc]
    cases c.field with
    | none => exact ⟨rfl, rfl⟩
    | some field =>
        rw [Option.elim_some, Gathered.name]
        split <;> exact ⟨rfl, rfl⟩
  constructor
  · intro k
    rw [hkept.1, counted_of_not_counts (hc k)]
    exact h.values k
  · rw [hkept.2, h.header, List.find?_append]
    by_cases hfield : c.field = some httpHeader
    · -- there was one about a header in front of it
      have hearlier : conditionsFor httpHeader cs ≠ [] :=
        fun hnone => hc httpHeader ⟨hfield, .inr ⟨rfl, hnone⟩⟩
      cases hfirst : cs.find? (·.field = some httpHeader) with
      | some b => rfl
      | none =>
          exact absurd (conditionsFor_eq_nil.2 (by simpa using hfirst)) hearlier
    · have hlast : [c].find? (·.field = some httpHeader) = none := by simpa using hfield
      rw [hlast, Option.or_none]
  · rw [h.read_of_not_counts hc, leftOut_of_not_counts hc, List.filterMap_append]
    cases hfield : c.field with
    | none =>
        rw [List.filterMap_cons_none hfield, List.filterMap_nil, List.append_nil]
        exact h.unsupported
    | some field =>
        have hnamed : field ∈ g.unsupported ↔ field ∈ (leftOut cs).filterMap (·.field) := by
          rw [h.unsupported, List.mem_eraseDups]
        rw [List.filterMap_cons_some hfield, List.filterMap_nil, eraseDups_append_singleton,
          ← h.unsupported, Option.elim_some, Gathered.name]
        by_cases hmem : field ∈ g.unsupported
        · rw [if_pos (List.contains_iff_mem.2 hmem), if_pos (hnamed.1 hmem)]
        · rw [if_neg (mt List.contains_iff_mem.1 hmem), if_neg (mt hnamed.2 hmem)]

/-- One more condition is accounted for. -/
theorem read (h : Accounts cs g) (c : Condition) : Accounts (cs ++ [c]) (g.read c) := by
  by_cases hc : ∃ field, Counts cs c field
  · obtain ⟨field, hc⟩ := hc
    exact h.read_counted hc
  · exact h.read_leftOut fun field hfield => hc ⟨field, hfield⟩

/-- All conditions that are read one after the other are accounted for. -/
theorem foldl (cs : List Condition) : Accounts cs (cs.foldl Gathered.read .empty) := by
  induction cs using List.reverseRecOn with
  | nil => exact empty
  | append_singleton cs c ih =>
      rw [List.foldl_append]
      exact ih.read c

end Accounts

/-! ### Rules -/

/-- What a rule holds of its conditions: what is gathered from all of them. -/
theorem accounts_of_toListenerRule {r : Rule} {l : ListenerRule} (hr : r.toListenerRule = .ok l) :
    Accounts r.conditions ⟨l.conditions, l.httpHeaderName, l.unsupportedConditions⟩ := by
  rw [Rule.toListenerRule] at hr
  split at hr
  · cases hr
  · cases hpriority : Cutover.Rule.Priority.parse? (r.priority.getD "default") with
    | error e =>
        rw [hpriority] at hr
        cases hr
    | ok p =>
        rw [hpriority] at hr
        cases hr
        exact Accounts.foldl r.conditions

/-- Without the first condition for a field there are the others. -/
theorem conditionsFor_eraseP (field : String) (cs : List Condition) :
    conditionsFor field (cs.eraseP (·.field = some field)) = (conditionsFor field cs).tail := by
  induction cs with
  | nil => rfl
  | cons c rest ih =>
      rw [conditionsFor] at ih
      by_cases hfield : c.field = some field <;> simp [conditionsFor, hfield, ih]

/-- Where no condition that is left out has a field, every condition with a field counts for it. -/
theorem counted_eq_of_leftOut (hnone : ∀ c ∈ leftOut cs, c.field = none) (field : String) :
    counted field cs = conditionsFor field cs := by
  rw [counted]
  by_cases hplain : field ∈ plainFields
  · rw [if_pos hplain]
  have hrest : ∀ c ∈ cs.eraseP (·.field = some httpHeader), c.field ≠ some field := by
    intro c hc hfield
    have hother : ∀ k ∈ plainFields, c.field ≠ some k := by
      rintro k hk heq
      exact hplain (Option.some.inj (hfield.symm.trans heq) ▸ hk)
    have hleft : c ∈ leftOut cs := List.mem_filter.2 ⟨hc, decide_eq_true hother⟩
    rw [hnone c hleft] at hfield
    cases hfield
  rw [if_neg hplain]
  by_cases hheader : field = httpHeader
  · subst hheader
    have htail := conditionsFor_eq_nil.2 hrest
    rw [conditionsFor_eraseP] at htail
    rw [if_pos rfl]
    cases hfor : conditionsFor httpHeader cs with
    | nil => rfl
    | cons first rest =>
        rw [hfor, List.tail_cons] at htail
        rw [htail]
        rfl
  · rw [if_neg hheader, eq_comm, conditionsFor_eq_nil]
    intro c hc hfield
    refine hrest c ((List.mem_eraseP_of_neg ?_).2 hc) hfield
    simpa [hfield] using hheader

/-- **Every condition of a rule is accounted for.**  A rule that is read has, for each field, the
values of the conditions that count for it, one behind the other in their order; it has the header
of the first condition about one; and it names the fields of all other conditions, each once, in
their order.  These are all conditions.  So if no field is named, then each field has the values of
all conditions for it, those of any one of them in a row. -/
theorem toListenerRule_accounts {r : Rule} {l : ListenerRule} (hr : r.toListenerRule = .ok l) :
    (∀ field, l.conditions.find? field =
        if counted field r.conditions = [] then none
        else some ((counted field r.conditions).flatMap (·.asked field))) ∧
      l.httpHeaderName =
        ((r.conditions.find? (·.field = some httpHeader)).bind (·.httpHeader)).bind (·.name) ∧
      l.unsupportedConditions = ((leftOut r.conditions).filterMap (·.field)).eraseDups ∧
      (placedFields.flatMap (counted · r.conditions) ++ leftOut r.conditions).Perm
        r.conditions ∧
      (l.unsupportedConditions = [] → ∀ field,
        counted field r.conditions = conditionsFor field r.conditions ∧
        ∀ c ∈ r.conditions, c.field = some field →
          ∃ values, l.conditions.find? field = some values ∧ c.asked field <:+: values) := by
  obtain ⟨hvalues, hheader, hunsupported⟩ := accounts_of_toListenerRule hr
  refine ⟨hvalues, hheader, hunsupported, counted_perm r.conditions, fun hnone field => ?_⟩
  have hleft : ∀ c ∈ leftOut r.conditions, c.field = none := by
    intro c hc
    by_contra hfield
    obtain ⟨k, hk⟩ := Option.ne_none_iff_exists'.1 hfield
    have hnamed : k ∈ l.unsupportedConditions := by
      apply hunsupported ▸ List.mem_eraseDups.2
      exact List.mem_filterMap.2 ⟨c, hc, hk⟩
    rw [hnone] at hnamed
    cases hnamed
  have hall := counted_eq_of_leftOut hleft field
  refine ⟨hall, fun c hc hfield => ?_⟩
  have hcounted : c ∈ counted field r.conditions := by
    rw [hall, conditionsFor, List.mem_filter]
    exact ⟨hc, decide_eq_true hfield⟩
  refine ⟨_, (hvalues field).trans (if_neg (List.ne_nil_of_mem hcounted)), ?_⟩
  obtain ⟨front, behind, hsplit⟩ := List.append_of_mem hcounted
  rw [hsplit, List.flatMap_append, List.flatMap_cons, ← List.append_assoc]
  exact ⟨_, _, rfl⟩

/-- A rule with hosts in two conditions, with two headers, and with a condition on the query. -/
def layeredRule : Rule where
  arn := some "rule"
  priority := some "48000"
  conditions := [
    ⟨some hostHeader, none, some ["a.example"], none, none, none⟩,
    ⟨some httpHeader, none, none, none, none, some ⟨some "X-Env", ["blue"]⟩⟩,
    ⟨some "query-string", none, none, none, none, none⟩,
    ⟨some hostHeader, some ["b.example"], none, none, none, none⟩,
    ⟨some httpHeader, none, none, none, none, some ⟨some "X-Team", ["core"]⟩⟩,
    ⟨some "query-string", none, none, none, none, none⟩]
  actions := []

theorem toListenerRule_accounts_layeredRule :
    ∃ l, layeredRule.toListenerRule = .ok l ∧
      l.conditions.find? hostHeader = some ["a.example", "b.example"] ∧
      l.conditions.find? httpHeader = some ["blue"] ∧
      l.conditions.find? "query-string" = none ∧
      l.httpHeaderName = some "X-Env" ∧
      l.unsupportedConditions = ["query-string", httpHeader] := by
  obtain ⟨l, hl⟩ : ∃ l, layeredRule.toListenerRule = .ok l := ⟨_, rfl⟩
  obtain ⟨hvalues, hheader, hunsupported, -, -⟩ := toListenerRule_accounts hl
  refine ⟨l, hl, ?_, ?_, ?_, ?_, ?_⟩
  · rw [hvalues]
    decide
  · rw [hvalues]
    decide
  · rw [hvalues]
    decide
  · rw [hheader]
    decide
  · rw [hunsupported]
    decide

end Wire

end Cutover
