/-
**Listener rules.**

A rule matches requests by conditions and answers them by actions.  What a rule is made of can be
written down as a definition, from which the rule can be created again; the default rule of a
listener cannot be created.

Main definitions:

* `Cutover.Rule.Action` — what a rule does, and `Action.forwardTarget?`;
* `Cutover.Rule.Definition` — what a rule is created from;
* `Cutover.ListenerRule` — a rule, with `ListenerRule.hostHeaders`, `ListenerRule.pathPatterns`,
  `ListenerRule.forwardTarget?`, `ListenerRule.depth` and `ListenerRule.definition?`.
-/
import Cutover.Dict
import Cutover.Rule.Priority
import Cutover.Text.Sorted

set_option autoImplicit false

namespace Cutover

/-- Conditions of a rule: the values by the field they are compared with. -/
abbrev Conditions := Dict (List String)

namespace Rule

/-! ### Fields of conditions -/

/-- The field for the host of a request. -/
def hostHeader : String := "host-header"

/-- The field for the path of a request. -/
def pathPattern : String := "path-pattern"

/-- The field for one header of a request, whose name stands apart. -/
def httpHeader : String := "http-header"

/-- The field for the address that a request comes from. -/
def sourceIp : String := "source-ip"

/-! ### Actions -/

/-- A target group that takes a share of the requests. -/
structure WeightedTarget where
  targetGroupArn : String
  weight : Option Int
deriving DecidableEq

/-- What a rule does with a request. -/
inductive Action
  /-- Forwards to one target group, or to several with weights. -/
  | forward (targetGroupArn : Option String) (weighted : List WeightedTarget)
      (order : Option Int)
  /-- Answers with a fixed response. -/
  | fixedResponse (statusCode : String) (contentType messageBody : Option String)
      (order : Option Int)
  /-- An action that is never created here. -/
  | other (type : String) (order : Option Int)
deriving DecidableEq

namespace Action

/-- The action that forwards to one target group. -/
def forwardTo (targetGroupArn : String) : Action := .forward (some targetGroupArn) [] none

/-- The target group that an action forwards to: its own, or the first with a weight. -/
def forwardTarget? : Action → Option String
  | .forward (some arn) _ _ => some arn
  | .forward none weighted _ => weighted.head?.map (·.targetGroupArn)
  | _ => none

end Action

/-! ### Definitions -/

/-- The hosts among conditions, as a set. -/
def hostsOf (conditions : Conditions) : List String :=
  Text.sortedSet ((conditions.find? hostHeader).getD [])

/-- What a rule is created from. -/
structure Definition where
  priority : Nat
  conditions : Conditions
  httpHeaderName : Option String
  actions : List Action
  tags : Tags
deriving DecidableEq

/-- The hosts that a definition is for, as a set. -/
def Definition.hostHeaders (d : Definition) : List String := hostsOf d.conditions

end Rule

open Rule

/-- A rule of a listener. -/
structure ListenerRule where
  arn : String
  priority : Priority
  conditions : Conditions
  /-- The header that an `http-header` condition looks at. -/
  httpHeaderName : Option String
  /-- Fields of conditions that a definition cannot hold. -/
  unsupportedConditions : List String
  actions : List Action
  tags : Tags
deriving DecidableEq

namespace ListenerRule

/-- The hosts that the rule is for, as a set. -/
def hostHeaders (r : ListenerRule) : List String := hostsOf r.conditions

/-- The path patterns of the rule, in their order. -/
def pathPatterns (r : ListenerRule) : List String := (r.conditions.find? pathPattern).getD []

/-- The target group that the first forwarding action forwards to. -/
def forwardTarget? (r : ListenerRule) : Option String :=
  r.actions.findSome? Action.forwardTarget?

/-- What the rule can be created from again; the default rule cannot. -/
def definition? (r : ListenerRule) : Option Definition :=
  r.priority.toNat?.map (fun n => ⟨n, r.conditions, r.httpHeaderName, r.actions, r.tags⟩)

/-- The number of parts between slashes that are not empty. -/
def segmentCount (path : String) : Nat :=
  ((path.toList.splitOn '/').filter (fun s => !s.isEmpty)).length

/-- The greatest number of segments of a path pattern. -/
def depth (r : ListenerRule) : Nat :=
  (r.pathPatterns.map segmentCount).foldl max 0

end ListenerRule

end Cutover
