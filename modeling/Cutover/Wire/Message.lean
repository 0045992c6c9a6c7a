/-
**Messages to the cloud.**

A request is sent as the name of an operation with a tree of parameters.  The load balancer
service takes every leaf as text and an empty list as an empty text, and repeats the name of the
operation among the parameters; the other services take a tree as it is.  What is not set is not
sent.

Main definitions:

* `Cutover.Wire.Message` — an operation with its parameters;
* `Cutover.Wire.Creation.message` — the message that creates a rule;
* `Cutover.Request.message?` — the message of a request, unless it stays in this process.
-/
import Cutover.Cloud.Request
import Cutover.Json.Codec
import Cutover.Wire.Container
import Cutover.Wire.Rule

set_option autoImplicit false

namespace Cutover

namespace Wire

open Json (Value)

/-- An operation with its parameters. -/
structure Message where
  operation : String
  parameters : Value

/-- A member of the parameters, unless there is nothing to send. -/
abbrev Parameter := Option (String × Value)

/-- A member that is always sent. -/
def always (name : String) (v : Value) : Parameter := some (name, v)

/-- A text. -/
def text (name : String) (s : String) : Parameter := some (name, .string s)

/-- A text that may be unset. -/
def text? (name : String) (s : Option String) : Parameter := s.map (fun s => (name, .string s))

/-- A list of texts. -/
def textList (l : List String) : Value := .array (l.map .string)

/-! ### The load balancer service -/

/-- A message to the load balancer service. -/
def query (operation : String) (parameters : List Parameter) : Message :=
  ⟨operation, .ofSlots (text "Action" operation :: parameters)⟩

/-- A list among the parameters; an empty one is an empty text. -/
def queryList (l : List Value) : Value := if l.isEmpty then .string "" else .array l

/-- A list of texts among the parameters. -/
def queryTexts (l : List String) : Value := queryList (l.map .string)

/-- An integer, which is sent as text. -/
def queryInteger? (name : String) (n : Option Int) : Parameter :=
  n.map (fun n => (name, .string (toString n)))

/-- The place of a kind of field in a condition. -/
def valuesMember? (name : String) (values : Option (List String)) : Parameter :=
  values.map (fun vs => (name, .ofSlots [always "Values" (queryTexts vs)]))

/-- A condition. -/
def Condition.tree (c : Condition) : Value :=
  .ofSlots [
    text? "Field" c.field,
    c.values.map (fun vs => ("Values", queryTexts vs)),
    valuesMember? "HostHeaderConfig" c.hostHeader,
    valuesMember? "PathPatternConfig" c.pathPattern,
    valuesMember? "SourceIpConfig" c.sourceIp,
    c.httpHeader.map (fun h => ("HttpHeaderConfig",
      .ofSlots [text? "HttpHeaderName" h.name, always "Values" (queryTexts h.values)]))]

/-- A target group with its share. -/
def TargetShare.tree (t : TargetShare) : Value :=
  .ofSlots [text? "TargetGroupArn" t.arn, queryInteger? "Weight" t.weight]

/-- A fixed response. -/
def FixedResponse.tree (r : FixedResponse) : Value :=
  .ofSlots [text? "StatusCode" r.statusCode, text? "ContentType" r.contentType,
    text? "MessageBody" r.messageBody]

/-- An action. -/
def Action.tree (a : Action) : Value :=
  .ofSlots [
    text? "Type" a.type,
    text? "TargetGroupArn" a.targetGroupArn,
    a.forward.map (fun shares => ("ForwardConfig",
      .ofSlots [always "TargetGroups" (queryList (shares.map TargetShare.tree))])),
    a.fixedResponse.map (fun r => ("FixedResponseConfig", r.tree)),
    queryInteger? "Order" a.order]

/-- A tag. -/
def tagTree (tag : String × String) : Value :=
  .ofSlots [text "Key" tag.1, text "Value" tag.2]

/-- The message that creates a rule. -/
def Creation.message (c : Creation) : Message :=
  query "CreateRule" [
    text "ListenerArn" c.listener,
    text "Priority" (toString c.priority),
    always "Conditions" (queryList (c.conditions.map Condition.tree)),
    always "Actions" (queryList (c.actions.map Action.tree)),
    always "Tags" (queryList (c.tags.map tagTree))]

/-! ### The other services -/

/-- A message to another service. -/
def plain (operation : String) (parameters : List Parameter) : Message :=
  ⟨operation, .ofSlots parameters⟩

/-- An integer that may be unset. -/
def integer? (name : String) (n : Option Int32) : Parameter :=
  n.map (fun n => (name, .integer n.toInt))

/-- A truth value that may be unset. -/
def flag? (name : String) (b : Option Bool) : Parameter := b.map (fun b => (name, .boolean b))

/-- A list that may be unset. -/
def list? {α : Type} (name : String) (tree : α → Value) (xs : Option (List α)) : Parameter :=
  xs.map (fun xs => (name, .array (xs.map tree)))

/-- Texts by name that may be unset. -/
def texts? (name : String) (d : Option (Dict String)) : Parameter :=
  d.map (fun d => (name, .object (d.map Value.string).entries))

/-- A variable. -/
def KeyValuePair.tree (x : KeyValuePair) : Value :=
  .ofSlots [text? "name" x.name, text? "value" x.value]

/-- A secret. -/
def Secret.tree (x : Secret) : Value :=
  .ofSlots [text "name" x.name, text "valueFrom" x.valueFrom]

/-- A port. -/
def PortMapping.tree (x : PortMapping) : Value :=
  .ofSlots [integer? "containerPort" x.containerPort, integer? "hostPort" x.hostPort,
    text? "protocol" x.protocol]

/-- Where a log goes. -/
def LogConfiguration.tree (x : LogConfiguration) : Value :=
  .ofSlots [text "logDriver" x.logDriver, texts? "options" x.options,
    list? "secretOptions" Secret.tree x.secretOptions]

/-- How health is checked. -/
def HealthCheck.tree (x : HealthCheck) : Value :=
  .ofSlots [always "command" (textList x.command), integer? "interval" x.interval,
    integer? "timeout" x.timeout, integer? "retries" x.retries,
    integer? "startPeriod" x.startPeriod]

/-- A container that has to be there first. -/
def ContainerDependency.tree (x : ContainerDependency) : Value :=
  .ofSlots [text "containerName" x.containerName, text "condition" x.condition]

/-- A mounted volume. -/
def MountPoint.tree (x : MountPoint) : Value :=
  .ofSlots [text? "sourceVolume" x.sourceVolume, text? "containerPath" x.containerPath,
    flag? "readOnly" x.readOnly]

/-- A limit. -/
def Ulimit.tree (x : Ulimit) : Value :=
  .ofSlots [text "name" x.name, always "softLimit" (.integer x.softLimit.toInt),
    always "hardLimit" (.integer x.hardLimit.toInt)]

/-- A log router. -/
def FirelensConfiguration.tree (x : FirelensConfiguration) : Value :=
  .ofSlots [text "type" x.type, texts? "options" x.options]

/-- A container. -/
def ContainerDefinition.tree (x : ContainerDefinition) : Value :=
  .ofSlots [
    text? "name" x.name, text? "image" x.image, flag? "essential" x.essential,
    always "cpu" (.integer x.cpu.toInt), integer? "memory" x.memory,
    integer? "memoryReservation" x.memoryReservation,
    list? "portMappings" PortMapping.tree x.portMappings,
    list? "environment" KeyValuePair.tree x.environment,
    list? "secrets" Secret.tree x.secrets, list? "command" .string x.command,
    list? "entryPoint" .string x.entryPoint, text? "workingDirectory" x.workingDirectory,
    text? "user" x.user, flag? "readonlyRootFilesystem" x.readonlyRootFilesystem,
    x.healthCheck.map (fun h => ("healthCheck", h.tree)),
    list? "dependsOn" ContainerDependency.tree x.dependsOn,
    list? "mountPoints" MountPoint.tree x.mountPoints, texts? "dockerLabels" x.dockerLabels,
    list? "ulimits" Ulimit.tree x.ulimits, integer? "startTimeout" x.startTimeout,
    integer? "stopTimeout" x.stopTimeout,
    x.logConfiguration.map (fun l => ("logConfiguration", l.tree)),
    x.firelensConfiguration.map (fun f => ("firelensConfiguration", f.tree))]

/-- The message that registers a task definition, once its containers are built. -/
def registration (d : TaskDefinition) : Except Failure Message := do
  let containers ← convertAll ContainerDefinition.ofDefinition d.containerDefinitions
  return plain "RegisterTaskDefinition" [
    text "family" d.family,
    text "taskRoleArn" d.taskRoleArn,
    text "executionRoleArn" d.executionRoleArn,
    text "networkMode" d.networkMode,
    always "requiresCompatibilities" (textList d.requiresCompatibilities),
    text "cpu" d.cpu,
    text "memory" d.memory,
    always "containerDefinitions" (.array (containers.map ContainerDefinition.tree))]

end Wire

open Wire

/-- The message of a request, or why there is none to send; output stays in this process. -/
def Request.message? : Request → Except Failure (Option Message)
  | .describeLoadBalancers marker =>
    .ok (query "DescribeLoadBalancers" [text? "Marker" marker])
  | .describeListeners loadBalancer marker =>
    .ok (query "DescribeListeners" [text "LoadBalancerArn" loadBalancer, text? "Marker" marker])
  | .describeRules listener marker =>
    .ok (query "DescribeRules" [text "ListenerArn" listener, text? "Marker" marker])
  | .describeTargetGroups marker =>
    .ok (query "DescribeTargetGroups" [text? "Marker" marker])
  | .describeTags arns =>
    .ok (query "DescribeTags" [always "ResourceArns" (queryTexts arns)])
  | .describeListenerCertificates listener marker =>
    .ok (query "DescribeListenerCertificates"
      [text "ListenerArn" listener, text? "Marker" marker])
  | .createRule listener definition => do
    return some (← Creation.ofDefinition listener definition).message
  | .deleteRule arn => .ok (query "DeleteRule" [text "RuleArn" arn])
  | .describeClusters names =>
    .ok (plain "DescribeClusters" [always "clusters" (textList names)])
  | .listClusters token => .ok (plain "ListClusters" [text? "nextToken" token])
  | .listTagsForResource arn => .ok (plain "ListTagsForResource" [text "resourceArn" arn])
  | .registerTaskDefinition definition => do return some (← registration definition)
  | .updateService cluster service taskDefinition =>
    .ok (plain "UpdateService" [text "cluster" cluster, text "service" service,
      text "taskDefinition" taskDefinition])
  | .listTasks cluster filter token =>
    .ok (plain "ListTasks" [text "cluster" cluster, text? "family" filter.family,
      text? "startedBy" filter.startedBy, text? "desiredStatus" filter.desiredStatus,
      text? "nextToken" token])
  | .describeTasks cluster tasks =>
    .ok (plain "DescribeTasks" [text "cluster" cluster, always "tasks" (textList tasks)])
  | .describeServices cluster service =>
    .ok (plain "DescribeServices" [text "cluster" cluster,
      always "services" (textList [service])])
  | .describeLogStreams group start limit =>
    .ok (plain "DescribeLogStreams" [text "logGroupName" group,
      text "logStreamNamePrefix" start, always "limit" (.integer limit)])
  | .filterLogEvents group streams startTime token =>
    .ok (plain "FilterLogEvents" [text "logGroupName" group,
      always "logStreamNames" (textList streams), always "startTime" (.integer startTime),
      text? "nextToken" token])
  | .getObject bucket key => .ok (plain "GetObject" [text "Bucket" bucket, text "Key" key])
  | .getParameter name =>
    .ok (plain "GetParameter" [text "Name" name, always "WithDecryption" (.boolean true)])
  | .getParametersByPath path recursive token =>
    .ok (plain "GetParametersByPath" [text "Path" path, always "Recursive" (.boolean recursive),
      always "WithDecryption" (.boolean true), text? "NextToken" token])
  | .writeLine _ => .ok none
  | .flushOutput => .ok none

end Cutover
