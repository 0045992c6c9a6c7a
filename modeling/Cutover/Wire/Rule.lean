/-
**Listener rules as the load balancer service writes them.**

On the wire a condition names its field and holds its values in a place of its own for each kind
of field, and an action holds the settings of every type of action, most of them unset.  Reading
gathers the values by field.  What the gathered form has no place for is not lost but named: a
field of another kind, and any header after the first.

Main definitions:

* `Cutover.Wire.Condition`, `Wire.Action`, `Wire.Rule` — the wire forms;
* `Cutover.Wire.Rule.toListenerRule` — a rule that is read;
* `Cutover.Wire.Creation.ofDefinition` — what is sent to create a rule.
-/
import Cutover.Rule.Basic
import Cutover.Wire.Tree

set_option autoImplicit false

namespace Cutover.Wire

open Rule (hostHeader pathPattern sourceIp httpHeader)

/-- An answer in which something is left out that always has to be there. -/
def missing (operation field : String) : Failure :=
  .aws operation none ("response did not include " ++ field)

/-! ### Wire forms -/

/-- A header of requests and the values asked of it. -/
structure HeaderValues where
  name : Option String
  values : List String
deriving DecidableEq

/-- A condition. -/
structure Condition where
  field : Option String
  values : Option (List String)
  hostHeader : Option (List String)
  pathPattern : Option (List String)
  sourceIp : Option (List String)
  httpHeader : Option HeaderValues
deriving DecidableEq

/-- A target group that takes a share of the requests. -/
structure TargetShare where
  arn : Option String
  weight : Option Int
deriving DecidableEq

/-- A response that is the same for every request. -/
structure FixedResponse where
  statusCode : Option String
  contentType : Option String
  messageBody : Option String
deriving DecidableEq

/-- An action. -/
structure Action where
  type : Option String
  targetGroupArn : Option String
  forward : Option (List TargetShare)
  fixedResponse : Option FixedResponse
  order : Option Int
deriving DecidableEq

/-- A rule. -/
structure Rule where
  arn : Option String
  priority : Option String
  conditions : List Condition
  actions : List Action
deriving DecidableEq

/-! ### Reading -/

/-- The conditions that are read so far. -/
structure Gathered where
  conditions : Conditions
  httpHeaderName : Option String
  unsupported : List String

namespace Gathered

/-- Nothing is read so far. -/
def empty : Gathered := ⟨.empty, none, []⟩

/-- More values for a field, behind those it has. -/
def add (g : Gathered) (field : String) (values : List String) : Gathered :=
  { g with conditions := g.conditions.alter field (fun old => old.getD [] ++ values) }

/-- A field that there is no place for is named once. -/
def name (g : Gathered) (field : String) : Gathered :=
  if g.unsupported.contains field then g
  else { g with unsupported := g.unsupported ++ [field] }

/-- Whether no header is read so far. -/
def isWithoutHeader (g : Gathered) : Bool :=
  g.httpHeaderName.isNone && !g.conditions.contains httpHeader

end Gathered

/-- The values for a field, from its own place or else from the plain one. -/
def Condition.valuesOr (c : Condition) (own : Option (List String)) : List String :=
  own.getD (c.values.getD [])

/-- One more condition is read; one without a field says nothing. -/
def Gathered.read (g : Gathered) (c : Condition) : Gathered :=
  match c.field with
  | none => g
  | some field =>
    if field = hostHeader then g.add field (c.valuesOr c.hostHeader)
    else if field = pathPattern then g.add field (c.valuesOr c.pathPattern)
    else if field = sourceIp then g.add field (c.valuesOr c.sourceIp)
    else if field = httpHeader ∧ g.isWithoutHeader then
      { g.add field (c.valuesOr (c.httpHeader.map (·.values))) with
        httpHeaderName := c.httpHeader.bind (·.name) }
    else g.name field

/-- The type of an action that forwards. -/
def forwardType : String := "forward"

/-- The type of an action that answers by itself. -/
def fixedResponseType : String := "fixed-response"

/-- A target group with its share, if it is named. -/
def TargetShare.toWeighted? (t : TargetShare) : Option Rule.WeightedTarget :=
  t.arn.map (fun arn => ⟨arn, t.weight⟩)

/-- An action that is read. -/
def Action.toAction (a : Action) : Rule.Action :=
  if a.type = some forwardType then
    .forward a.targetGroupArn ((a.forward.getD []).filterMap TargetShare.toWeighted?) a.order
  else if a.type = some fixedResponseType then
    .fixedResponse ((a.fixedResponse.bind (·.statusCode)).getD "")
      (a.fixedResponse.bind (·.contentType)) (a.fixedResponse.bind (·.messageBody)) a.order
  else .other (a.type.getD "") a.order

/-- A rule that is read; it has no tags, which are asked for apart. -/
def Rule.toListenerRule (r : Rule) : Except Failure ListenerRule := do
  match r.arn with
  | none => throw (missing "DescribeRules" "RuleArn")
  | some arn =>
    let priority ← Rule.Priority.parse? (r.priority.getD "default")
    let g := r.conditions.foldl Gathered.read .empty
    return {
      arn
      priority
      conditions := g.conditions
      httpHeaderName := g.httpHeaderName
      unsupportedConditions := g.unsupported
      actions := r.actions.map Action.toAction
      tags := .empty }

/-! ### Writing -/

/-- What is sent to create a rule. -/
structure Creation where
  listener : String
  priority : Int
  conditions : List Condition
  actions : List Action
  tags : List (String × String)
deriving DecidableEq

/-- The condition for a field with its values, in the place of that field. -/
def Condition.ofValues (headerName : Option String) (field : String) (values : List String) :
    Condition :=
  let plain : Condition := ⟨some field, none, none, none, none, none⟩
  if field = Rule.hostHeader then { plain with hostHeader := some values }
  else if field = Rule.pathPattern then { plain with pathPattern := some values }
  else if field = Rule.sourceIp then { plain with sourceIp := some values }
  else if field = Rule.httpHeader then { plain with httpHeader := some ⟨headerName, values⟩ }
  else { plain with values := some values }

/-- The action that is sent.  A target group of its own takes the place of the shares, since the
service refuses both together; actions of other types are refused here. -/
def Action.ofAction : Rule.Action → Except Failure Action
  | .forward arn weighted order =>
    let shares := weighted.map (fun t => ⟨some t.targetGroupArn, t.weight⟩)
    .ok {
      type := some forwardType
      targetGroupArn := arn
      forward := if arn.isNone && !weighted.isEmpty then some shares else none
      fixedResponse := none
      order }
  | .fixedResponse statusCode contentType messageBody order =>
    .ok {
      type := some fixedResponseType
      targetGroupArn := none
      forward := none
      fixedResponse := some ⟨some statusCode, contentType, messageBody⟩
      order }
  | .other type _ => .error (.config ("Cannot create a rule with a " ++ type ++ " action"))

/-- The actions that are sent, or the first refusal. -/
def Action.ofActions : List Rule.Action → Except Failure (List Action)
  | [] => .ok []
  | a :: rest => do
    let sent ← Action.ofAction a
    let more ← Action.ofActions rest
    return sent :: more

/-- A number as an integer of 32 bits with a sign, which is what a priority is sent as. -/
def signed32 (n : Nat) : Int := (n : Int).bmod (Nat.pow 2 32)

/-- What is sent to create a rule from a definition. -/
def Creation.ofDefinition (listener : String) (d : Rule.Definition) :
    Except Failure Creation := do
  let actions ← Action.ofActions d.actions
  return {
    listener
    priority := signed32 d.priority
    conditions :=
      d.conditions.entries.map (fun e => Condition.ofValues d.httpHeaderName e.1 e.2)
    actions
    tags := d.tags.entries }

end Cutover.Wire
