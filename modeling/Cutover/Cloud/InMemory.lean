/-
**An account in memory.**

An account with load balancers that is a plain value.  It lists what it holds in pages of given
sizes, keeps tags apart from the resources that they belong to, refuses a rule whose priority
another rule of the listener has, and gives every created rule a name of its own.  Single requests
can be made to fail.

Main definitions:

* `Cutover.Request.name` — the name of a request;
* `Cutover.InMemory.Account` — the account; `Account.createRule`, `Account.deleteRule`;
* `Cutover.InMemory.host` — the account as a host.
-/
import Cutover.Cloud.Run

set_option autoImplicit false

namespace Cutover

/-- The name of a request. -/
def Request.name : Request → String
  | .describeLoadBalancers _ => "describe_load_balancers"
  | .describeListeners _ _ => "describe_listeners"
  | .describeRules _ _ => "describe_rules"
  | .describeTargetGroups _ => "describe_target_groups"
  | .describeTags _ => "describe_tags"
  | .describeListenerCertificates _ _ => "describe_listener_certificates"
  | .createRule _ _ => "create_rule"
  | .deleteRule _ => "delete_rule"
  | .describeClusters _ => "describe_clusters"
  | .listClusters _ => "list_clusters"
  | .listTagsForResource _ => "list_tags_for_resource"
  | .registerTaskDefinition _ => "register_task_definition"
  | .updateService _ _ _ => "update_service"
  | .listTasks _ _ _ => "list_tasks"
  | .describeTasks _ _ => "describe_tasks"
  | .describeServices _ _ => "describe_services"
  | .describeLogStreams _ _ _ => "describe_log_streams"
  | .filterLogEvents _ _ _ _ => "filter_log_events"
  | .getObject _ _ => "get_object"
  | .getParameter _ => "get_parameter"
  | .getParametersByPath _ _ _ => "get_parameters_by_path"
  | .writeLine _ => "write_line"
  | .flushOutput => "flush_output"

namespace InMemory

/-- A request that is made to fail: the one of that name with that number, counted from one. -/
structure Fault where
  request : String
  number : Nat
  failure : Failure

/-- An account. -/
structure Account where
  loadBalancers : List String
  /-- The listeners of each load balancer. -/
  listeners : Dict (List Listener)
  /-- The certificates of each listener. -/
  certificates : Dict (List Certificate)
  /-- The rules of each listener. -/
  rules : Dict (List ListenerRule)
  targetGroups : List TargetGroup
  /-- The tags of each resource that has any. -/
  tags : Dict Tags
  /-- The sizes of the first pages of each listing. -/
  pageSizes : Dict (List Nat)
  faults : List Fault
  /-- Names for the rules that are created first. -/
  names : List String
  /-- How many rules were created. -/
  created : Nat
  /-- How many requests of each name were made. -/
  requests : Dict Nat

namespace Account

/-- The page of a listing at a marker. -/
def page {α : Type} (a : Account) (kind : String) (items : List α) (marker : Option String) :
    Page α :=
  let sizes := (a.pageSizes.find? kind).getD []
  let i := (marker.bind (·.toNat?)).getD 0
  let rest := items.drop ((sizes.take i).foldr (· + ·) 0)
  match sizes[i]? with
  | some n => ⟨rest.take n, some (toString (i + 1))⟩
  | none => ⟨rest, none⟩

/-- The rules of a listener. -/
def rulesOf (a : Account) (listener : String) : List ListenerRule :=
  (a.rules.find? listener).getD []

/-- The tags of resources, in the order in which they are asked for. -/
def describeTags (a : Account) (arns : List String) : List TagDescription :=
  arns.filterMap (fun arn => (a.tags.find? arn).map (fun t => ⟨arn, t⟩))

/-- The name of the next rule that is created. -/
def nextName (a : Account) : String :=
  match a.names[a.created]? with
  | some s => s
  | none => "rule-new-" ++ toString (a.created + 1)

/-- The account with one more rule. -/
def addRule (a : Account) (listener : String) (r : ListenerRule) : Account :=
  { a with
    rules := a.rules.insert listener (a.rulesOf listener ++ [{ r with tags := .empty }])
    tags := a.tags.insert r.arn r.tags }

/-- Whether a rule of a listener has a priority. -/
def isTaken (a : Account) (listener : String) (priority : Nat) : Bool :=
  (a.rulesOf listener).any (fun r => r.priority.toNat? == some priority)

/-- A rule is created from a definition, unless its priority is taken. -/
def createRule (a : Account) (listener : String) (d : Rule.Definition) :
    Except Failure ListenerRule × Account :=
  if a.isTaken listener d.priority then
    (.error (.aws "CreateRule" (some "PriorityInUse")
      ("Priority '" ++ toString d.priority ++ "' is currently in use")), a)
  else
    let r : ListenerRule :=
      { arn := a.nextName
        priority := .number d.priority
        conditions := d.conditions
        httpHeaderName := d.httpHeaderName
        unsupportedConditions := []
        actions := d.actions
        tags := d.tags }
    (.ok r, { a.addRule listener r with created := a.created + 1 })

/-- Every rule with a name is removed, with its tags. -/
def deleteRule (a : Account) (arn : String) : Except Failure Unit × Account :=
  if a.rules.entries.any (fun e => e.2.any (fun r => r.arn == arn)) then
    (.ok (), { a with
      rules := a.rules.map (fun l => l.filter (fun r => r.arn != arn))
      tags := a.tags.erase arn })
  else (.error (.aws "DeleteRule" (some "RuleNotFound") ("Rule '" ++ arn ++ "' not found")), a)

/-- What the account does with a request that is not made to fail. -/
def perform (a : Account) : (r : Request) → Except Failure r.Reply × Account
  | .describeLoadBalancers marker =>
    (.ok (a.page "load_balancers" a.loadBalancers marker), a)
  | .describeListeners lb marker =>
    (.ok (a.page "listeners" ((a.listeners.find? lb).getD []) marker), a)
  | .describeRules listener marker => (.ok (a.page "rules" (a.rulesOf listener) marker), a)
  | .describeTargetGroups marker => (.ok (a.page "target_groups" a.targetGroups marker), a)
  | .describeTags arns => (.ok (a.describeTags arns), a)
  | .describeListenerCertificates listener marker =>
    (.ok (a.page "certificates" ((a.certificates.find? listener).getD []) marker), a)
  | .createRule listener d => a.createRule listener d
  | .deleteRule arn => a.deleteRule arn
  | r => (.error (.aws r.name none "not part of the account"), a)

/-- What the account does with a request. -/
def answer (a : Account) (r : Request) : Except Failure r.Reply × Account :=
  let number := (a.requests.find? r.name).getD 0 + 1
  let a := { a with requests := a.requests.insert r.name number }
  match a.faults.find? (fun f => f.request == r.name && f.number == number) with
  | some f => (.error f.failure, a)
  | none => a.perform r

end Account

/-- The account as a host, which answers at once. -/
def host (rounds : Nat) : Host Account where
  answer r a :=
    let (result, a) := a.answer r
    ⟨result, 0, a⟩
  rounds

end InMemory

end Cutover
