/-
**Requests to the world outside.**

Everything that a run asks of the cloud, and every line that it writes, is a request.  The type of
a reply depends on the request.

Main definitions:

* `Cutover.Request` — the requests;
* `Cutover.Request.Reply` — what a successful one returns.
-/
import Cutover.Cloud.Resource
import Cutover.Container.Definition
import Cutover.Rule.Basic

set_option autoImplicit false

namespace Cutover

/-- The requests. -/
inductive Request
  | describeLoadBalancers (marker : Option String)
  | describeListeners (loadBalancer : String) (marker : Option String)
  | describeRules (listener : String) (marker : Option String)
  | describeTargetGroups (marker : Option String)
  | describeTags (arns : List String)
  | describeListenerCertificates (listener : String) (marker : Option String)
  | createRule (listener : String) (definition : Rule.Definition)
  | deleteRule (arn : String)
  | describeClusters (names : List String)
  | listClusters (token : Option String)
  | listTagsForResource (arn : String)
  | registerTaskDefinition (definition : TaskDefinition)
  | updateService (cluster service taskDefinition : String)
  | listTasks (cluster : String) (filter : TaskFilter) (token : Option String)
  | describeTasks (cluster : String) (tasks : List String)
  | describeServices (cluster service : String)
  | describeLogStreams (group start : String) (limit : Int)
  | filterLogEvents (group : String) (streams : List String) (startTime : Int)
      (token : Option String)
  | getObject (bucket key : String)
  | getParameter (name : String)
  | getParametersByPath (path : String) (recursive : Bool) (token : Option String)
  /-- Writes a line to the output. -/
  | writeLine (line : String)
  /-- Makes sure that what was written is shown. -/
  | flushOutput
deriving DecidableEq

/-- What a successful request returns. -/
def Request.Reply : Request → Type
  | .describeLoadBalancers _ => Page String
  | .describeListeners _ _ => Page Listener
  | .describeRules _ _ => Page ListenerRule
  | .describeTargetGroups _ => Page TargetGroup
  | .describeTags _ => List TagDescription
  | .describeListenerCertificates _ _ => Page Certificate
  | .createRule _ _ => ListenerRule
  | .deleteRule _ => Unit
  | .describeClusters _ => List Cluster
  | .listClusters _ => Page String
  | .listTagsForResource _ => Tags
  | .registerTaskDefinition _ => String
  | .updateService _ _ _ => List Deployment
  | .listTasks _ _ _ => Page String
  | .describeTasks _ _ => List Task
  | .describeServices _ _ => List Deployment
  | .describeLogStreams _ _ _ => List String
  | .filterLogEvents _ _ _ _ => Page LogEvent
  | .getObject _ _ => ByteArray
  | .getParameter _ => Parameter
  | .getParametersByPath _ _ _ => Page Parameter
  | .writeLine _ => Unit
  | .flushOutput => Unit

end Cutover
