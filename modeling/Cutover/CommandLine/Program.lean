/-
**The program.**

An invocation reads the platform configuration first and then runs its command.  What is generated
for services lies beside the configuration.  The exit code says whether the command has succeeded,
and the operator is told why it has not.

Main definitions:

* `Cutover.CommandLine.Invocation.run` — the run of an invocation;
* `Cutover.CommandLine.errorLine` — what the operator is told of a failure;
* `Cutover.CommandLine.exitCode` — the exit code.
-/
import Cutover.CommandLine.Invocation
import Cutover.Rule.Update
import Cutover.Service.Deploy

set_option autoImplicit false

namespace Cutover.CommandLine

variable {σ : Type}

/-- The directory that a configuration lies in. -/
def baseDir (config : String) : String :=
  ((Path.parent? config).filter (fun dir => !dir.isEmpty)).getD "."

/-- The variable that holds the tag of an image. -/
def imageTagVariable : String := "IMAGE_TAG"

/-- The run of an invocation. -/
def Invocation.run (files : Files) (environ : Dict String) (i : Invocation) : Run σ Unit := do
  let config ← Run.ofExcept (PlatformConfig.load files i.config)
  match i.command with
  | .updateRules environment =>
    let _ ← Rule.update config environment
    return ()
  | .deploy service environment imageTag =>
    Service.deploy files (baseDir i.config) ⟨config.application, environment, service⟩ imageTag
      (environ.find? imageTagVariable)

/-- The text of a failure with that of the cause which it quotes. -/
def chainText (e : Failure) : String :=
  match e with
  | .yaml cause | .json cause => e.message ++ ": " ++ cause.message
  | .file cause => e.message ++ ": " ++ cause.message
  | _ => e.message

/-- What the operator is told of a failure, in red. -/
def errorLine (e : Failure) : String := "\x1b[31mError: " ++ chainText e ++ "\x1b[0m"

/-- The exit code for a mistake in the arguments. -/
def usageCode : UInt32 := 2

/-- The exit code of a run. -/
def exitCode {α : Type} : Outcome α → UInt32
  | .ok _ => 0
  | .failed _ | .unfinished => 1

end Cutover.CommandLine
