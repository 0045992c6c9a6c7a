/-
**Failures.**

Everything that can go wrong is a cause with its data.  A cause belongs to one category, which is
what callers branch on, and has one text, which is what the operator reads.

Main definitions:

* `Cutover.FileError` — why a local file could not be read or written;
* `Cutover.Failure` — the causes; `Cutover.Failure.kind` and `Cutover.Failure.message`;
* `Cutover.Failure.code?` — the error code of a refused cloud call.
-/
import Cutover.Document.Error
import Cutover.Text.Quoted

set_option autoImplicit false

namespace Cutover

open Text (quote quoteList)

/-- Why a local file could not be read or written. -/
inductive FileError
  | notFound
  | isDirectory
  | notDirectory
  | nameTooLong
  | nulInPath
  | notUtf8
  | other (text : String)
deriving DecidableEq

/-- The text of a file error. -/
def FileError.message : FileError → String
  | .notFound => "No such file or directory (os error 2)"
  | .isDirectory => "Is a directory (os error 21)"
  | .notDirectory => "Not a directory (os error 20)"
  | .nameTooLong => "File name too long (os error 36)"
  | .nulInPath => "file name contained an unexpected NUL byte"
  | .notUtf8 => "stream did not contain valid UTF-8"
  | .other text => text

/-- Categories of failures. -/
inductive FailureKind
  /-- A resource looked up by tag or name does not exist. -/
  | notFound
  /-- Something had to hold before any change was made, and did not. -/
  | precondition
  /-- Some changes were made and then compensated. -/
  | partialFailure
  /-- A bounded wait ran out of time. -/
  | timeout
  /-- The container service reported a failed deployment. -/
  | deployment
  /-- A cloud call was refused. -/
  | aws
  /-- A local file or a document is at fault. -/
  | config
deriving DecidableEq

/-- The causes of failure.  Waits are in milliseconds. -/
inductive Failure
  | loadBalancerNotFound (application environment : String)
  | listenerNotFound (application environment : String)
  | listenerRuleConditionsNotFound (listenerArn : String)
  | certificateNotFound (environment : String)
  | clusterNotFound (application environment : String)
  | parameterNotFound (name : String)
  | applicationNotFound (application : String)
  | environmentNotFound (application environment : String)
  | targetGroupNotFound (application environment service : String)
  | containerDefinitionsNotFound (bucket key reason : String)
  | manualRulesPresent (ruleArns : List String) (threshold : Nat)
  | imageTagMissing
  | noPrimaryDeployment (service cluster : String)
  | priorityBandExceeded (hostHeaders : List String) (rules capacity : Nat)
  | priorityInUse (priority : Nat)
  | imageTagNotApplied (service imageTag : String)
  | unsupportedRuleConditions (ruleArn : String) (fields : List String)
  | rolledBack (cause : Failure) (byCreation byDeletion : List String)
  | rollbackFailed (cause : Failure) (failures byCreation byDeletion : List String)
  | taskStartTimeout (service cluster : String) (expected found waited : Nat)
  | logStreamsTimeout (logGroup : String) (missing : List String) (waited : Nat)
  | deploymentTimeout (service : String) (waited : Nat)
  | execAgentNotRunning
  | deploymentFailed (service reason : String)
  | rolloutStateUnavailable (service reason : String)
  | ecs (text : String)
  | aws (operation : String) (code : Option String) (text : String)
  | config (text : String)
  | file (error : FileError)
  | yaml (error : Document.Error)
  | json (error : Document.Error)
deriving DecidableEq, Inhabited

namespace Failure

/-- The category of a cause. -/
def kind : Failure → FailureKind
  | .loadBalancerNotFound .. | .listenerNotFound .. | .listenerRuleConditionsNotFound ..
  | .certificateNotFound .. | .clusterNotFound .. | .parameterNotFound ..
  | .applicationNotFound .. | .environmentNotFound .. | .targetGroupNotFound ..
  | .containerDefinitionsNotFound .. => .notFound
  | .manualRulesPresent .. | .imageTagMissing | .noPrimaryDeployment ..
  | .priorityBandExceeded .. | .priorityInUse .. | .imageTagNotApplied ..
  | .unsupportedRuleConditions .. => .precondition
  | .rolledBack .. | .rollbackFailed .. => .partialFailure
  | .taskStartTimeout .. | .logStreamsTimeout .. | .deploymentTimeout ..
  | .execAgentNotRunning => .timeout
  | .deploymentFailed .. | .rolloutStateUnavailable .. | .ecs .. => .deployment
  | .aws .. => .aws
  | .config .. | .file .. | .yaml .. | .json .. => .config

/-- The error code of a refused cloud call, if the refusal carried one. -/
def code? : Failure → Option String
  | .aws _ code _ => code
  | _ => none

/-- Whole seconds of a wait, as text. -/
def seconds (waited : Nat) : String := toString (waited / 1000)

/-- The lines that list what a rollback re-created and deleted. -/
def rolledBackLines (byCreation byDeletion : List String) : String :=
  "\nRolled back rules by creating: " ++ quoteList byCreation ++
    "\n and deleting " ++ quoteList byDeletion

/-- The text of a cause. -/
def message : Failure → String
  | .loadBalancerNotFound application environment =>
    "No load balancer found for environment " ++ environment ++ " in the application " ++
      application ++ "."
  | .listenerNotFound application environment =>
    "No HTTPS listener found for environment " ++ environment ++ " in the application " ++
      application ++ "."
  | .listenerRuleConditionsNotFound listenerArn =>
    "No listener rule conditions found for listener ARN: " ++ listenerArn
  | .certificateNotFound environment =>
    "No certificate found with domain name matching environment " ++ environment ++ "."
  | .clusterNotFound application environment =>
    "No ECS cluster found for \"" ++ application ++ "\" in \"" ++ environment ++
      "\" environment."
  | .parameterNotFound name => "Parameter " ++ name ++ " not found."
  | .applicationNotFound application =>
    "The AWS account does not contain the application \"" ++ application ++
      "\"; ensure you have set the environment variable \"AWS_PROFILE\" correctly."
  | .environmentNotFound application environment =>
    "The environment \"" ++ environment ++
      "\" either does not exist or has not been deployed for the application " ++
      application ++ "."
  | .targetGroupNotFound application environment service =>
    "No platform target group found for service " ++ service ++ " in " ++ application ++ "/" ++
      environment ++ "."
  | .containerDefinitionsNotFound bucket key reason =>
    "Failed to fetch container definitions from s3://" ++ bucket ++ "/" ++ key ++ ": " ++ reason
  | .manualRulesPresent ruleArns threshold =>
    "The following rules have been created manually please review and if required set the " ++
      "rules priority to the copilot range after priority: " ++ toString threshold ++
      ".\nRules: " ++ quoteList ruleArns
  | .imageTagMissing =>
    "No image tag provided. Pass --image-tag or set the IMAGE_TAG environment variable."
  | .noPrimaryDeployment service cluster =>
    "Unable to find primary ECS deployment for service " ++ service ++ " in cluster " ++
      cluster ++ "."
  | .priorityBandExceeded hostHeaders rules capacity =>
    "Host headers " ++ quoteList hostHeaders ++ " need " ++ toString rules ++
      " rules which exceeds the " ++ toString capacity ++
      " priority slots available per group."
  | .priorityInUse priority =>
    "Priority " ++ toString priority ++ " in use but no matching platform rule found."
  | .imageTagNotApplied service imageTag =>
    "Image tag " ++ imageTag ++ " was not applied to any container of service " ++ service ++
      "; no image contains \"$\x7bIMAGE_TAG\x7d\"."
  | .unsupportedRuleConditions ruleArn fields =>
    "Rule " ++ ruleArn ++ " uses conditions that cannot be copied to a platform rule: " ++
      quoteList fields
  | .rolledBack cause byCreation byDeletion =>
    cause.message ++ rolledBackLines byCreation byDeletion
  | .rollbackFailed cause failures byCreation byDeletion =>
    "Rollback failed after: " ++ cause.message ++ "\nRollback partially failed: " ++
      String.intercalate "\n" failures ++ rolledBackLines byCreation byDeletion
  | .taskStartTimeout service cluster expected found waited =>
    "Timed out waiting for " ++ toString expected ++ " RUNNING ECS task(s) for service " ++
      service ++ " in cluster " ++ cluster ++ "; found " ++ toString found ++ " after " ++
      seconds waited ++ "s."
  | .logStreamsTimeout logGroup missing waited =>
    "Timed out after " ++ seconds waited ++ "s waiting for the following log streams in " ++
      logGroup ++ " to create: " ++ quoteList missing
  | .deploymentTimeout service waited =>
    "Timed out waiting for ECS deployment of service " ++ service ++ " to complete after " ++
      seconds waited ++ "s."
  | .execAgentNotRunning => "ECS exec agent never reached \"RUNNING\" status"
  | .deploymentFailed _ reason => "ECS deployment failed: " ++ reason
  | .rolloutStateUnavailable _ reason => "Failed to fetch ECS rollout state: " ++ reason
  | .ecs text => "ECS error: " ++ text
  | .aws operation _ text => "AWS error calling " ++ operation ++ ": " ++ text
  | .config text => "Configuration error: " ++ text
  | .file error => "IO error: " ++ error.message
  | .yaml error => "YAML error: " ++ error.message
  | .json error => "JSON error: " ++ error.message

end Failure

end Cutover
