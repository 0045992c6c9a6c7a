/-
**Names of what belongs to a service.**

The names of clusters, services, roles, logs and stored objects follow from the application, the
environment and the service.

Main definitions:

* `Cutover.Service.clusterName`, `Service.ecsName`, `Service.family`, `Service.logGroup`,
  `Service.bucket`, `Service.objectKey` — the names;
* `Cutover.Service.taskId`, `Cutover.Service.expectedLogStreams` — the log streams of tasks.
-/

set_option autoImplicit false

namespace Cutover.Service

/-- The cluster of an environment. -/
def clusterName (application environment : String) : String :=
  application ++ "-" ++ environment ++ "-cluster"

/-- The service inside the cluster. -/
def ecsName (application environment service : String) : String :=
  application ++ "-" ++ environment ++ "-" ++ service

/-- The family of the task definitions of a service. -/
def family (application environment service : String) : String :=
  ecsName application environment service ++ "-task-def"

/-- The group of the logs of a service. -/
def logGroup (application environment service : String) : String :=
  "/platform/ecs/service/" ++ application ++ "/" ++ environment ++ "/" ++ service

/-- The bucket of the container templates of an environment. -/
def bucket (application environment : String) : String :=
  "ecs-container-definitions-" ++ application ++ "-" ++ environment

/-- The object that holds the container template of a service. -/
def objectKey (application environment service : String) : String :=
  application ++ "/" ++ environment ++ "/" ++ service ++ ".json"

/-- The role under which the containers of a service run. -/
def taskRole (accountId application environment service : String) : String :=
  "arn:aws:iam::" ++ accountId ++ ":role/" ++ ecsName application environment service ++
    "-ecs-task-role"

/-- The role under which the tasks of a service are started. -/
def executionRole (accountId application environment service : String) : String :=
  "arn:aws:iam::" ++ accountId ++ ":role/" ++ ecsName application environment service ++
    "-ecs-task-execution-role"

/-- What stands behind the last slash of the name of a task. -/
def taskId (arn : String) : String :=
  String.ofList (arn.toList.reverse.takeWhile (· != '/')).reverse

/-- The log stream of a container in a task. -/
def logStream (container taskArn : String) : String :=
  "platform/" ++ container ++ "/" ++ taskId taskArn

/-- The log streams of every container in every task, task by task. -/
def expectedLogStreams (taskArns containers : List String) : List String :=
  taskArns.flatMap (fun arn => containers.map (fun c => logStream c arn))

end Cutover.Service
