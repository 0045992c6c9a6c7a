/-
**Replies of the cloud.**

The service answers a message with a tree or with the body of an object, or refuses it with an
error code and a text.  Reading a tree leaves out resources that have no name and takes what else
is not said as empty.

Main definitions:

* `Cutover.Wire.Response` — what a service answers;
* `Cutover.Wire.Rule.ofTree` — a rule in a tree;
* `Cutover.Request.read` — what a response says to a request.
-/
import Cutover.Cloud.Request
import Cutover.Wire.Rule

set_option autoImplicit false

namespace Cutover

namespace Wire

open Json (Value)

/-- What a service answers. -/
inductive Response
  | document (tree : Value)
  /-- The body of an object. -/
  | body (bytes : ByteArray)
  /-- A body that breaks off. -/
  | brokenBody
  | refused (code : Option String) (text : String)

/-! ### Refusals -/

/-- An error code without what stands in front of a hash sign and behind a colon. -/
def shortCode (code : String) : String :=
  let named := code.toList.takeWhile (· != ':')
  String.ofList (if named.contains '#' then (named.dropWhile (· != '#')).drop 1 else named)

/-- The tree that the load balancer service answers; it gives error codes as they are. -/
def queryTree (operation : String) : Response → Except Failure Value
  | .document tree => .ok tree
  | .refused code text => .error (.aws operation code text)
  | .body _ | .brokenBody => .ok .null

/-- The tree that another service answers; it may put a namespace in front of an error code. -/
def plainTree (operation : String) : Response → Except Failure Value
  | .document tree => .ok tree
  | .refused code text => .error (.aws operation (code.map shortCode) text)
  | .body _ | .brokenBody => .ok .null

/-! ### The load balancer service -/

/-- A page whose marker stands under a name. -/
def pageOf {α : Type} (marker : String) (tree : Value) (items : List α) : Page α :=
  ⟨items, tree.textAt? marker⟩

/-- The values in the place of a kind of field. -/
def valuesAt? (v : Value) (name : String) : Option (List String) :=
  (v.member? name).map (fun place => place.textsAt "Values")

/-- A condition in a tree. -/
def Condition.ofTree (v : Value) : Condition where
  field := v.textAt? "Field"
  values := (v.member? "Values").map Value.texts
  hostHeader := valuesAt? v "HostHeaderConfig"
  pathPattern := valuesAt? v "PathPatternConfig"
  sourceIp := valuesAt? v "SourceIpConfig"
  httpHeader := (v.member? "HttpHeaderConfig").map (fun h =>
    ⟨h.textAt? "HttpHeaderName", h.textsAt "Values"⟩)

/-- A target group with its share in a tree. -/
def TargetShare.ofTree (v : Value) : TargetShare :=
  ⟨v.textAt? "TargetGroupArn", v.integerAt? "Weight"⟩

/-- An action in a tree. -/
def Action.ofTree (v : Value) : Action where
  type := v.textAt? "Type"
  targetGroupArn := v.textAt? "TargetGroupArn"
  forward := (v.member? "ForwardConfig").map (fun f =>
    (f.itemsAt "TargetGroups").map TargetShare.ofTree)
  fixedResponse := (v.member? "FixedResponseConfig").map (fun r =>
    ⟨r.textAt? "StatusCode", r.textAt? "ContentType", r.textAt? "MessageBody"⟩)
  order := v.integerAt? "Order"

/-- A rule in a tree. -/
def Rule.ofTree (v : Value) : Rule where
  arn := v.textAt? "RuleArn"
  priority := v.textAt? "Priority"
  conditions := (v.itemsAt "Conditions").map Condition.ofTree
  actions := (v.itemsAt "Actions").map Action.ofTree

/-- Rules that are read, or the first that cannot be. -/
def listenerRules : List Rule → Except Failure (List ListenerRule)
  | [] => .ok []
  | r :: rest => do
    let rule ← r.toListenerRule
    let more ← listenerRules rest
    return rule :: more

/-- A listener, if it is named. -/
def listener? (v : Value) : Option Listener :=
  (v.textAt? "ListenerArn").map (fun arn => ⟨arn, v.textAt? "Protocol"⟩)

/-- A target group, if it is named. -/
def targetGroup? (v : Value) : Option TargetGroup :=
  (v.textAt? "TargetGroupArn").map (fun arn => {
    arn
    name := v.textAt "TargetGroupName"
    healthCheck := {
      protocol := v.textAt? "HealthCheckProtocol"
      port := v.textAt? "HealthCheckPort"
      path := v.textAt? "HealthCheckPath"
      intervalSeconds := v.integerAt? "HealthCheckIntervalSeconds"
      healthyThreshold := v.integerAt? "HealthyThresholdCount"
      unhealthyThreshold := v.integerAt? "UnhealthyThresholdCount" }
    tags := .empty })

/-- A tag whose parts stand under two names, if it has a key. -/
def tag? (key value : String) (v : Value) : Option (String × String) :=
  (v.textAt? key).map (fun k => (k, v.textAt value))

/-- The tags of a resource, if it is named. -/
def tagDescription? (v : Value) : Option TagDescription :=
  (v.textAt? "ResourceArn").map (fun arn =>
    ⟨arn, .ofList ((v.itemsAt "Tags").filterMap (tag? "Key" "Value"))⟩)

/-- A certificate, if it is named. -/
def certificate? (v : Value) : Option Certificate :=
  (v.textAt? "CertificateArn").map (fun arn =>
    ⟨arn, ((v.member? "IsDefault").bind Value.flag?).getD false⟩)

/-- The rule that was created, with the tags that were asked for. -/
def createdRule (tags : Tags) (tree : Value) : Except Failure ListenerRule :=
  match tree.itemsAt "Rules" with
  | [] => .error (missing "CreateRule" "Rules")
  | v :: _ => do return { ← (Rule.ofTree v).toListenerRule with tags }

/-! ### The container service -/

/-- A cluster. -/
def cluster (v : Value) : Cluster := ⟨v.textAt "clusterArn", v.textAt "clusterName"⟩

/-- A deployment. -/
def deployment (v : Value) : Deployment where
  id := v.textAt "id"
  status := v.textAt "status"
  rolloutState := v.textAt? "rolloutState"
  rolloutStateReason := v.textAt? "rolloutStateReason"

/-- The deployments of a service. -/
def deployments (service : Value) : List Deployment :=
  (service.itemsAt "deployments").map deployment

/-- A task. -/
def task (v : Value) : Task where
  arn := v.textAt "taskArn"
  containers := (v.itemsAt "containers").map (fun c => {
    name := c.textAt "name"
    managedAgents := (c.itemsAt "managedAgents").map (fun a =>
      ⟨a.textAt "name", a.textAt? "lastStatus"⟩) })

/-- The task definition that was registered. -/
def registeredArn (tree : Value) : Except Failure String :=
  match (tree.member? "taskDefinition").bind (·.textAt? "taskDefinitionArn") with
  | some arn => .ok arn
  | none => .error (missing "RegisterTaskDefinition" "taskDefinitionArn")

/-- The deployments of the service that was asked for. -/
def describedDeployments (cluster service : String) (tree : Value) :
    Except Failure (List Deployment) :=
  match tree.itemsAt "services" with
  | [] => .error (.ecs ("Service " ++ service ++ " not found in cluster " ++ cluster))
  | found :: _ => .ok (deployments found)

/-! ### Logs, objects and parameters -/

/-- An event of a log. -/
def logEvent (v : Value) : LogEvent where
  stream := v.textAt "logStreamName"
  timestamp := (v.integerAt? "timestamp").getD 0
  message := v.textAt "message"

/-- A stored parameter. -/
def parameter (v : Value) : Cutover.Parameter := ⟨v.textAt "Name", v.textAt "Value"⟩

/-- The body of an object. -/
def bodyOf : Response → Except Failure ByteArray
  | .body bytes => .ok bytes
  | .brokenBody => .error (.aws "GetObject" none "streaming error")
  | .refused code text => .error (.aws "GetObject" code text)
  | .document _ => .error (missing "GetObject" "Body")

/-- The error code for a parameter that is not there. -/
def parameterNotFoundCode : String := "ParameterNotFound"

/-- The parameter with a name. -/
def parameterOf (name : String) (r : Response) : Except Failure Cutover.Parameter :=
  match plainTree "GetParameter" r with
  | .error e =>
    .error (if e.code? = some parameterNotFoundCode then .parameterNotFound name else e)
  | .ok tree =>
    match tree.member? "Parameter" with
    | some v => .ok (parameter v)
    | none => .error (.parameterNotFound name)

end Wire

open Wire

/-- What a response says to a request. -/
def Request.read : (request : Request) → Response → Except Failure request.Reply
  | .describeLoadBalancers _, r => do
    let tree ← queryTree "DescribeLoadBalancers" r
    return pageOf "NextMarker" tree
      ((tree.itemsAt "LoadBalancers").filterMap (·.textAt? "LoadBalancerArn"))
  | .describeListeners _ _, r => do
    let tree ← queryTree "DescribeListeners" r
    return pageOf "NextMarker" tree ((tree.itemsAt "Listeners").filterMap listener?)
  | .describeRules _ _, r => do
    let tree ← queryTree "DescribeRules" r
    let rules ← listenerRules ((tree.itemsAt "Rules").map Rule.ofTree)
    return pageOf "NextMarker" tree rules
  | .describeTargetGroups _, r => do
    let tree ← queryTree "DescribeTargetGroups" r
    return pageOf "NextMarker" tree ((tree.itemsAt "TargetGroups").filterMap targetGroup?)
  | .describeTags _, r => do
    let tree ← queryTree "DescribeTags" r
    return (tree.itemsAt "TagDescriptions").filterMap tagDescription?
  | .describeListenerCertificates _ _, r => do
    let tree ← queryTree "DescribeListenerCertificates" r
    return pageOf "NextMarker" tree ((tree.itemsAt "Certificates").filterMap certificate?)
  | .createRule _ definition, r => do createdRule definition.tags (← queryTree "CreateRule" r)
  | .deleteRule _, r => do
    let _ ← queryTree "DeleteRule" r
    return ()
  | .describeClusters _, r => do
    return ((← plainTree "DescribeClusters" r).itemsAt "clusters").map cluster
  | .listClusters _, r => do
    let tree ← plainTree "ListClusters" r
    return pageOf "nextToken" tree (tree.textsAt "clusterArns")
  | .listTagsForResource _, r => do
    let tree ← plainTree "ListTagsForResource" r
    return Dict.ofList ((tree.itemsAt "tags").filterMap (tag? "key" "value"))
  | .registerTaskDefinition _, r => do registeredArn (← plainTree "RegisterTaskDefinition" r)
  | .updateService _ _ _, r => do
    let tree ← plainTree "UpdateService" r
    return ((tree.member? "service").map deployments).getD []
  | .listTasks _ _ _, r => do
    let tree ← plainTree "ListTasks" r
    return pageOf "nextToken" tree (tree.textsAt "taskArns")
  | .describeTasks _ _, r => do
    return ((← plainTree "DescribeTasks" r).itemsAt "tasks").map task
  | .describeServices cluster service, r => do
    describedDeployments cluster service (← plainTree "DescribeServices" r)
  | .describeLogStreams _ _ _, r => do
    let tree ← plainTree "DescribeLogStreams" r
    return (tree.itemsAt "logStreams").filterMap (·.textAt? "logStreamName")
  | .filterLogEvents _ _ _ _, r => do
    let tree ← plainTree "FilterLogEvents" r
    return pageOf "nextToken" tree ((tree.itemsAt "events").map logEvent)
  | .getObject _ _, r => bodyOf r
  | .getParameter name, r => parameterOf name r
  | .getParametersByPath _ _ _, r => do
    let tree ← plainTree "GetParametersByPath" r
    return pageOf "NextToken" tree ((tree.itemsAt "Parameters").map parameter)
  | .writeLine _, _ => .ok ()
  | .flushOutput, _ => .ok ()

end Cutover
