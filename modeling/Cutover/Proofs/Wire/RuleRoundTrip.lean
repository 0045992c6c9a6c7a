/-
**A rule that is created again is the same rule.**

A rule is read from its wire form, taken apart into a definition, and sent to be created again.  A
service that echoes what is sent makes a rule that reads as the first one did: its conditions, the
header that one of them looks at, its priority and its actions.  The only difference is in actions
that forward to one target group and to shares besides, of which the group alone is sent.

Main definitions:

* `Cutover.Wire.Creation.echo` — the rule that echoes what was sent to create it;
* `Cutover.Wire.Recreates` — a rule is read back after it was created again;
* `Cutover.Rule.Action.settled` — an action without shares besides a target group of its own.

Main results:

* `Cutover.Wire.gather_echo` — conditions that are sent are gathered as they were;
* `Cutover.Wire.toActions_echo` — actions that are sent read as settled ones;
* `Cutover.Wire.recreated_reproduces` — **a rule that is created again is the same rule**.
-/
import Cutover.Proofs.Dict
import Cutover.Proofs.Rule.Priority
import Cutover.Wire.Rule
import Mathlib.Tactic.NormNum

set_option autoImplicit false

namespace Cutover

/-! ### Actions -/

namespace Rule.Action

/-- The action without shares besides a target group of its own. -/
def settled : Action → Action
  | .forward (some arn) _ order => .forward (some arn) [] order
  | a => a

/-- Whether an action is of a type that can be created. -/
def isCreatable : Action → Bool
  | .other _ _ => false
  | _ => true

@[simp] theorem settled_settled (a : Action) : a.settled.settled = a.settled := by
  rcases a with ⟨_ | arn, weighted, order⟩ | _ | _ <;> rfl

@[simp] theorem isCreatable_settled (a : Action) : a.settled.isCreatable = a.isCreatable := by
  rcases a with ⟨_ | arn, weighted, order⟩ | _ | _ <;> rfl

@[simp] theorem forwardTarget?_settled (a : Action) :
    a.settled.forwardTarget? = a.forwardTarget? := by
  rcases a with ⟨_ | arn, weighted, order⟩ | _ | _ <;> rfl

end Rule.Action

open Rule (hostHeader pathPattern sourceIp httpHeader)

namespace Wire

theorem toWeighted?_share (weighted : List Rule.WeightedTarget) :
    (weighted.map fun t => (⟨some t.targetGroupArn, t.weight⟩ : TargetShare)).filterMap
      TargetShare.toWeighted? = weighted := by
  induction weighted with
  | nil => rfl
  | cons t rest ih =>
      rw [List.map_cons, List.filterMap_cons_some (by rfl), ih]

/-- An action that is sent reads as a settled one. -/
theorem toAction_echo {a : Rule.Action} (ha : a.isCreatable = true) :
    ∃ sent, Action.ofAction a = .ok sent ∧ sent.toAction = a.settled := by
  cases a with
  | forward arn weighted order =>
      refine ⟨_, rfl, ?_⟩
      cases arn with
      | some arn => simp [Action.toAction, Rule.Action.settled]
      | none =>
          cases weighted with
          | nil => simp [Action.toAction, Rule.Action.settled]
          | cons t rest =>
              have hshares := toWeighted?_share (t :: rest)
              simpa [Action.toAction, Rule.Action.settled] using hshares
  | fixedResponse statusCode contentType messageBody order =>
      refine ⟨_, rfl, ?_⟩
      simp [Action.toAction, Rule.Action.settled, fixedResponseType, forwardType]
  | other type order => cases ha

/-- Actions that are sent read as settled ones. -/
theorem toActions_echo {actions : List Rule.Action}
    (hall : ∀ a ∈ actions, a.isCreatable = true) :
    ∃ sent, Action.ofActions actions = .ok sent ∧
      sent.map Action.toAction = actions.map Rule.Action.settled := by
  induction actions with
  | nil => exact ⟨[], rfl, rfl⟩
  | cons a rest ih =>
      obtain ⟨first, hfirst, hread⟩ := toAction_echo (hall a List.mem_cons_self)
      obtain ⟨more, hmore, hreads⟩ := ih fun b hb => hall b (List.mem_cons_of_mem a hb)
      refine ⟨first :: more, ?_, by rw [List.map_cons, List.map_cons, hread, hreads]⟩
      rw [Action.ofActions, hfirst, hmore]
      rfl

/-! ### Conditions -/

/-- Whether a field has a place among gathered conditions. -/
def isKnown (field : String) : Bool :=
  field = hostHeader ∨ field = pathPattern ∨ field = sourceIp ∨ field = httpHeader

namespace Gathered

variable {g : Gathered}

/-- What becomes of a condition that is read: it has no field; its field has a place, and is not the
one for headers; it is the first header; or its field is named. -/
theorem read_cases (g : Gathered) (c : Condition) :
    g.read c = g ∨
      (∃ field values, isKnown field = true ∧ g.read c = g.add field values) ∨
      (∃ values, g.read c =
        { g.add httpHeader values with httpHeaderName := c.httpHeader.bind (·.name) }) ∨
      ∃ field, g.read c = g.name field := by
  rw [read]
  rcases c.field with _ | field
  · exact .inl rfl
  by_cases hhost : field = hostHeader
  · exact .inr (.inl ⟨field, _, by simp [isKnown, hhost], if_pos hhost⟩)
  by_cases hpath : field = pathPattern
  · refine .inr (.inl ⟨field, c.valuesOr c.pathPattern, by simp [isKnown, hpath], ?_⟩)
    exact (if_neg hhost).trans (if_pos hpath)
  by_cases hsource : field = sourceIp
  · refine .inr (.inl ⟨field, c.valuesOr c.sourceIp, by simp [isKnown, hsource], ?_⟩)
    exact (if_neg hhost).trans ((if_neg hpath).trans (if_pos hsource))
  by_cases hheader : field = httpHeader ∧ g.isWithoutHeader = true
  · refine .inr (.inr (.inl ⟨c.valuesOr (c.httpHeader.map (·.values)), ?_⟩))
    simp only [if_neg hhost, if_neg hpath, if_neg hsource, if_pos hheader]
    rw [hheader.1]
  · refine .inr (.inr (.inr ⟨field, ?_⟩))
    simp only [if_neg hhost, if_neg hpath, if_neg hsource, if_neg hheader]

/-- What gathered conditions look like: there are values only for fields that have a place, and a
header is named only where there are values for it. -/
structure Sound (g : Gathered) : Prop where
  known : ∀ field values, g.conditions.find? field = some values → isKnown field = true
  header : ∀ name, g.httpHeaderName = some name →
    ∃ values, g.conditions.find? httpHeader = some values

theorem sound_empty : empty.Sound := by
  constructor
  · intro field values hfind
    cases hfind
  · intro name hname
    cases hname

@[simp] theorem find?_add (g : Gathered) (field : String) (values : List String) (k : String) :
    (g.add field values).conditions.find? k =
      if k = field then some ((g.conditions.find? field).getD [] ++ values)
      else g.conditions.find? k := by
  rw [add, Dict.alter, Dict.find?_insert]

/-- Every condition that is read leaves gathered conditions in shape. -/
theorem Sound.read (hg : g.Sound) (c : Condition) : (g.read c).Sound := by
  rcases g.read_cases c with heq | ⟨field, values, hfield, heq⟩ | ⟨values, heq⟩ | ⟨field, heq⟩ <;>
    rw [heq]
  · exact hg
  · constructor
    · intro k vs hfind
      rw [find?_add] at hfind
      by_cases hk : k = field
      · rw [hk]
        exact hfield
      · rw [if_neg hk] at hfind
        exact hg.known k vs hfind
    · intro name hname
      obtain ⟨old, hold⟩ := hg.header name hname
      rw [find?_add, hold]
      by_cases hk : httpHeader = field
      · exact ⟨_, if_pos hk⟩
      · exact ⟨_, if_neg hk⟩
  · constructor
    · intro k vs hfind
      have hfind : (g.add httpHeader values).conditions.find? k = some vs := hfind
      rw [find?_add] at hfind
      by_cases hk : k = httpHeader
      · simp [isKnown, hk]
      · rw [if_neg hk] at hfind
        exact hg.known k vs hfind
    · intro name _
      have hfind := g.find?_add httpHeader values httpHeader
      rw [if_pos rfl] at hfind
      exact ⟨_, hfind⟩
  · rw [name]
    split
    · exact hg
    · exact ⟨hg.known, hg.header⟩

/-- Conditions that are read one after the other are gathered in shape. -/
theorem sound_foldl (conditions : List Condition) :
    (conditions.foldl Gathered.read empty).Sound := by
  have hall : ∀ g : Gathered, g.Sound → (conditions.foldl Gathered.read g).Sound := by
    induction conditions with
    | nil => exact fun g hg => hg
    | cons c rest ih => exact fun g hg => ih (g.read c) (hg.read c)
  exact hall empty sound_empty

/-- A condition that is sent is read back as the values of its field, if there are none so far. -/
theorem read_ofValues (headerName : Option String) {field : String} (values : List String)
    (hfield : isKnown field = true) (hnew : g.conditions.find? field = none)
    (hheader : field = httpHeader → g.httpHeaderName = none) :
    g.read (Condition.ofValues headerName field values) =
      { g with
        conditions := g.conditions.insert field values
        httpHeaderName := if field = httpHeader then headerName else g.httpHeaderName } := by
  have hadd : ∀ vs, g.add field vs = { g with conditions := g.conditions.insert field vs } := by
    intro vs
    rw [add, Dict.alter, hnew]
    rfl
  simp only [isKnown, decide_eq_true_eq] at hfield
  rcases hfield with rfl | rfl | rfl | rfl
  · exact hadd values
  · exact hadd values
  · exact hadd values
  · have hfirst : g.isWithoutHeader = true := by
      simp [isWithoutHeader, Dict.contains, hheader rfl, hnew]
    have hread : g.read (Condition.ofValues headerName httpHeader values) =
        if httpHeader = httpHeader ∧ g.isWithoutHeader = true then
          { g.add httpHeader values with httpHeaderName := headerName }
        else g.name httpHeader := rfl
    rw [hread, if_pos ⟨rfl, hfirst⟩, hadd]
    rfl

/-- Conditions that are sent for different fields are read back as the values of these fields. -/
theorem foldl_read_ofValues (headerName : Option String) {l : List (String × List String)}
    (hknown : ∀ e ∈ l, isKnown e.1 = true) (hnodup : (l.map (·.1)).Nodup) (g : Gathered)
    (hnew : ∀ e ∈ l, g.conditions.find? e.1 = none)
    (hheader : httpHeader ∈ l.map (·.1) → g.httpHeaderName = none) :
    (l.map fun e => Condition.ofValues headerName e.1 e.2).foldl Gathered.read g =
      { g with
        conditions := l.foldl (fun d e => d.insert e.1 e.2) g.conditions
        httpHeaderName :=
          if httpHeader ∈ l.map (·.1) then headerName else g.httpHeaderName } := by
  induction l generalizing g with
  | nil => rfl
  | cons e rest ih =>
      rw [List.map_cons, List.nodup_cons] at hnodup
      obtain ⟨hfresh, hrest⟩ := hnodup
      rw [List.map_cons, List.mem_cons] at hheader
      have hfirst := read_ofValues headerName e.2 (hknown e List.mem_cons_self)
        (hnew e List.mem_cons_self) fun he => hheader (.inl he.symm)
      have hother : ∀ e' ∈ rest, e'.1 ≠ e.1 := by
        intro e' he' heq
        rw [← heq] at hfresh
        exact hfresh (List.mem_map_of_mem he')
      rw [List.map_cons, List.foldl_cons, hfirst, ih]
      · -- the header is the first field, or one of the others, or none
        by_cases he : e.1 = httpHeader
        · rw [he] at hfresh
          simp [he, hfresh]
        · have hne : httpHeader ≠ e.1 := Ne.symm he
          simp only [List.map_cons, List.mem_cons, hne, he, false_or, if_false, List.foldl_cons]
      · exact fun e' he' => hknown e' (List.mem_cons_of_mem e he')
      · exact hrest
      · intro e' he'
        rw [Dict.find?_insert, if_neg (hother e' he')]
        exact hnew e' (List.mem_cons_of_mem e he')
      · intro hlater
        have he : e.1 ≠ httpHeader := by
          intro he
          rw [he] at hfresh
          exact hfresh hlater
        rw [if_neg he]
        exact hheader (.inr hlater)

end Gathered

/-- Conditions that are sent are gathered as they were. -/
theorem gather_echo {conditions : Conditions} {headerName : Option String}
    (hsound : Gathered.Sound ⟨conditions, headerName, []⟩) :
    (conditions.entries.map fun e => Condition.ofValues headerName e.1 e.2).foldl Gathered.read
      .empty = ⟨conditions, headerName, []⟩ := by
  have hfound : ∀ e ∈ conditions.entries, conditions.find? e.1 = some e.2 :=
    fun e he => Dict.find?_of_mem he
  have hknown : ∀ e ∈ conditions.entries, isKnown e.1 = true :=
    fun e he => hsound.known e.1 e.2 (hfound e he)
  have hread := Gathered.foldl_read_ofValues headerName hknown conditions.keys_nodup .empty
    (fun _ _ => rfl) fun _ => rfl
  have hname : (if httpHeader ∈ conditions.entries.map (·.1) then headerName else none) =
      headerName := by
    cases headerName with
    | none => simp
    | some name =>
        obtain ⟨values, hvalues⟩ := hsound.header name rfl
        exact if_pos (List.mem_map_of_mem (Dict.mem_of_find? hvalues))
  have hconditions : conditions.entries.foldl (fun d e => d.insert e.1 e.2) .empty = conditions :=
    Dict.ofList_entries conditions
  rw [hread]
  exact congrArg₂ (Gathered.mk · · []) hconditions hname

/-! ### Rules -/

/-- The rule that echoes what was sent to create it, under a name of its own. -/
def Creation.echo (c : Creation) (arn : String) : Rule where
  arn := some arn
  priority := some (toString c.priority)
  conditions := c.conditions
  actions := c.actions

/-- A rule is read back after it was created again on a listener, under a name. -/
def Recreates (listener arn : String) (r r' : ListenerRule) : Prop :=
  ∃ d c, r.definition? = some d ∧ Creation.ofDefinition listener d = .ok c ∧
    (c.echo arn).toListenerRule = .ok r'

/-- A rule that can be created again: it has a number that can be sent, its conditions are in shape,
and so are its actions. -/
structure Recreatable (r : ListenerRule) : Prop where
  number : ∃ n, r.priority = .number n ∧ n < Nat.pow 2 31
  conditions : Gathered.Sound ⟨r.conditions, r.httpHeaderName, []⟩
  actions : ∀ a ∈ r.actions, a.isCreatable = true

/-- A number that is below half of the modulus is its balanced remainder. -/
theorem bmod_eq_of_lt {n m : Nat} (hn : 2 * n < m) : (n : Int).bmod m = n := by
  apply Int.bmod_eq_of_le <;> omega

/-- A number that fits is sent as it is. -/
theorem signed32_of_lt {n : Nat} (hn : n < Nat.pow 2 31) : signed32 n = n := by
  have hwhole : Nat.pow 2 32 = 2 * Nat.pow 2 31 := by norm_num
  apply bmod_eq_of_lt
  rw [hwhole]
  exact Nat.mul_lt_mul_of_pos_left hn (by decide)

/-- A number that fits is read back from the text in which it is sent. -/
theorem parse?_signed32 {n : Nat} (hn : n < Nat.pow 2 31) :
    Rule.Priority.parse? (toString (signed32 n)) = .ok (.number n) := by
  have hlimit : ∀ m, Rule.Priority.number n = .number m → m < Rule.Priority.limit := by
    intro m hm
    rw [← Rule.Priority.number.inj hm]
    exact Nat.lt_of_lt_of_le hn (by decide)
  have htext : toString (signed32 n) = Rule.Priority.text (.number n) := by
    rw [signed32_of_lt hn]
    rfl
  rw [htext]
  exact Rule.Priority.parse?_text hlimit

/-- The rule that echoes what was sent reads as what the parts of it read as. -/
theorem toListenerRule_echo (c : Creation) (arn : String) {priority : Rule.Priority} {g : Gathered}
    (hpriority : Rule.Priority.parse? (toString c.priority) = .ok priority)
    (hconditions : c.conditions.foldl Gathered.read .empty = g) :
    (c.echo arn).toListenerRule = .ok {
      arn
      priority
      conditions := g.conditions
      httpHeaderName := g.httpHeaderName
      unsupportedConditions := g.unsupported
      actions := c.actions.map Action.toAction
      tags := .empty } := by
  rw [Rule.toListenerRule, Creation.echo]
  simp only [Option.getD_some, hpriority, hconditions]
  rfl

/-- What is sent to create a rule, once its actions can be sent. -/
theorem Creation.ofDefinition_eq (listener : String) {d : Rule.Definition} {priority : Int}
    {sent : List Action} (hpriority : signed32 d.priority = priority)
    (hsent : Action.ofActions d.actions = .ok sent) :
    Creation.ofDefinition listener d = .ok {
      listener
      priority
      conditions := d.conditions.entries.map fun e => Condition.ofValues d.httpHeaderName e.1 e.2
      actions := sent
      tags := d.tags.entries } := by
  rw [Creation.ofDefinition, hsent, ← hpriority]
  rfl

/-- The definition of a rule with a number has the parts of the rule. -/
theorem definition?_of_number {r : ListenerRule} {n : Nat} (hpriority : r.priority = .number n) :
    r.definition? = some ⟨n, r.conditions, r.httpHeaderName, r.actions, r.tags⟩ := by
  rw [ListenerRule.definition?, hpriority]
  rfl

/-- A rule that can be created again is read back with its actions settled. -/
theorem Recreatable.recreates {r : ListenerRule} (hr : Recreatable r) (listener arn : String) :
    Recreates listener arn r
      { r with
        arn := arn
        unsupportedConditions := []
        actions := r.actions.map Rule.Action.settled
        tags := .empty } := by
  obtain ⟨n, hpriority, hn⟩ := hr.number
  obtain ⟨m, hnumber, hparse⟩ :
      ∃ m, signed32 n = m ∧ Rule.Priority.parse? (toString m) = .ok (.number n) :=
    ⟨_, rfl, parse?_signed32 hn⟩
  obtain ⟨sent, hsent, hactions⟩ := toActions_echo hr.actions
  refine ⟨_, _, definition?_of_number hpriority,
    Creation.ofDefinition_eq listener hnumber hsent, ?_⟩
  rw [toListenerRule_echo _ arn hparse (gather_echo hr.conditions), hactions, hpriority]

/-- The conditions of a rule that is read are gathered, and so in shape. -/
theorem sound_of_toListenerRule {r : Rule} {x : ListenerRule} (hread : r.toListenerRule = .ok x) :
    Gathered.Sound ⟨x.conditions, x.httpHeaderName, []⟩ := by
  have hsound := Gathered.sound_foldl r.conditions
  unfold Rule.toListenerRule at hread
  split at hread
  · cases hread
  cases hpriority : Rule.Priority.parse? (r.priority.getD "default") with
  | error e =>
      rw [hpriority] at hread
      cases hread
  | ok priority =>
      rw [hpriority] at hread
      cases hread
      exact ⟨hsound.known, hsound.header⟩

/-- **A rule that is created again is the same rule.**  Whatever a listener's rule is read from, if
it has a number that can be sent and no action of another type, then creating it again and reading
what echoes it succeeds, and gives its priority, its conditions, its header and its actions, all but
the shares besides a target group.  Creating it once more changes nothing but the name. -/
theorem recreated_reproduces {r : Rule} {x : ListenerRule} {n : Nat} (listener arn : String)
    (hread : r.toListenerRule = .ok x) (hpriority : x.priority = .number n)
    (hn : n < Nat.pow 2 31) (hactions : ∀ a ∈ x.actions, a.isCreatable = true) :
    ∃ y, Recreates listener arn x y ∧
      y.priority = x.priority ∧ y.conditions = x.conditions ∧
      y.httpHeaderName = x.httpHeaderName ∧ y.unsupportedConditions = [] ∧
      y.actions = x.actions.map Rule.Action.settled ∧ y.forwardTarget? = x.forwardTarget? ∧
      ∀ listener' arn', Recreates listener' arn' y { y with arn := arn' } := by
  have hx : Recreatable x := ⟨⟨n, hpriority, hn⟩, sound_of_toListenerRule hread, hactions⟩
  refine ⟨_, hx.recreates listener arn, rfl, rfl, rfl, rfl, rfl, ?_, ?_⟩
  · -- settling an action leaves what it forwards to
    rw [ListenerRule.forwardTarget?, ListenerRule.forwardTarget?, List.findSome?_map]
    exact congrArg (List.findSome? · x.actions) (funext Rule.Action.forwardTarget?_settled)
  · intro listener' arn'
    have hsettled : ∀ a ∈ x.actions.map Rule.Action.settled, a.isCreatable = true := by
      intro a ha
      obtain ⟨b, hb, rfl⟩ := List.mem_map.mp ha
      rw [Rule.Action.isCreatable_settled]
      exact hactions b hb
    have hy : Recreatable { x with
        arn := arn
        unsupportedConditions := []
        actions := x.actions.map Rule.Action.settled
        tags := .empty } := ⟨⟨n, hpriority, hn⟩, hx.conditions, hsettled⟩
    have hagain := hy.recreates listener' arn'
    have hidem : Rule.Action.settled ∘ Rule.Action.settled = Rule.Action.settled :=
      funext Rule.Action.settled_settled
    rw [List.map_map, hidem] at hagain
    exact hagain

/-- A rule whose hosts are in two conditions and that looks at a header; it forwards to a group of
its own with a share besides, and then to shares only. -/
def canaryRule : Rule where
  arn := some "rule"
  priority := some "120"
  conditions := [
    ⟨some hostHeader, none, some ["a.example"], none, none, none⟩,
    ⟨some httpHeader, none, none, none, none, some ⟨some "X-Track", ["canary"]⟩⟩,
    ⟨some hostHeader, some ["b.example"], none, none, none, none⟩]
  actions := [
    ⟨some "forward", some "green", some [⟨some "green", some 1⟩], none, some 1⟩,
    ⟨some "forward", none, some [⟨some "blue", some 3⟩, ⟨some "green", none⟩], none, none⟩]

theorem recreated_reproduces_canaryRule :
    ∃ x y, canaryRule.toListenerRule = .ok x ∧ Recreates "listener" "again" x y ∧
      y.priority = .number 120 ∧
      y.conditions.entries =
        [(hostHeader, ["a.example", "b.example"]), (httpHeader, ["canary"])] ∧
      y.httpHeaderName = some "X-Track" ∧ y.forwardTarget? = some "green" ∧
      y.actions = [
        .forward (some "green") [] (some 1),
        .forward none [⟨"blue", some 3⟩, ⟨"green", none⟩] none] := by
  obtain ⟨x, hread, hx⟩ : ∃ x, canaryRule.toListenerRule = .ok x ∧ (
      x.priority = .number 120 ∧
      x.conditions.entries =
        [(hostHeader, ["a.example", "b.example"]), (httpHeader, ["canary"])] ∧
      x.httpHeaderName = some "X-Track" ∧ x.forwardTarget? = some "green" ∧
      x.actions = [
        .forward (some "green") [⟨"green", some 1⟩] (some 1),
        .forward none [⟨"blue", some 3⟩, ⟨"green", none⟩] none]) := ⟨_, rfl, by decide⟩
  obtain ⟨hnumber, hconditions, hheader, htarget, hactions⟩ := hx
  have hcreatable : ∀ a ∈ x.actions, a.isCreatable = true := by
    rw [hactions]
    decide
  obtain ⟨y, hy, hpriority', hconditions', hheader', _, hactions', htarget', _⟩ :=
    recreated_reproduces "listener" "again" hread hnumber (by decide) hcreatable
  rw [hnumber] at hpriority'
  rw [hheader] at hheader'
  rw [htarget] at htarget'
  rw [hactions] at hactions'
  refine ⟨x, y, hread, hy, hpriority', ?_, hheader', htarget', hactions'⟩
  rw [hconditions', hconditions]

end Wire

end Cutover
