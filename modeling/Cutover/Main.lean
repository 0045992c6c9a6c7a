/-
**The command.**

Reads the local files that an invocation needs and runs it.  No service can be reached from here,
so a run ends at the first message that it would send.
-/
import Cutover.CommandLine.Program
import Cutover.Wire.Transport

set_option autoImplicit false

namespace Cutover.CommandLine

/-- A transport that reaches no service. -/
def unreachable : Wire.Transport Unit where
  send _ _ := (.refused none "dispatch failure", ())

/-- How many pages of a listing are read at most. -/
def maxRounds : Nat := 1000000

/-- What is read of a path: its body, or that it is there without one. -/
def readFile (path : String) : IO (List (String × Option ByteArray)) := do
  try
    let body ← IO.FS.readBinFile path
    return [(path, some body)]
  catch
    | .noFileOrDirectory .. => return []
    | _ => return [(path, none)]

/-- The files that an invocation may read. -/
def readFiles (i : Invocation) : IO Files := do
  let config ← readFile i.config
  let service ← match i.command with
    | .updateRules _ => pure []
    | .deploy service environment _ =>
      readFile (ServiceConfig.path (baseDir i.config) environment service)
  return .ofList (config ++ service)

/-- The variables that an invocation looks at. -/
def readVariables : IO (Dict String) := do
  let read (name : String) : IO (List (String × String)) := do
    return ((← IO.getEnv name).map (fun value => (name, value))).toList
  return .ofList ((← read "AWS_REGION") ++ (← read "AWS_PROFILE") ++ (← read imageTagVariable))

/-- How the program is called. -/
def usageText : String :=
  "Usage: cutover [--config PATH] [--region REGION] [--profile PROFILE] COMMAND\n\n" ++
    "Commands:\n" ++
    "  environment update-alb-rules --environment NAME\n" ++
    "  internal service deploy --name NAME --environment NAME [-i, --image-tag TAG]"

/-- Shows what a run has reported and written. -/
def printEntry (e : Entry) : IO Unit :=
  match e with
  | .report line => IO.println line.message
  | .call (.writeLine line) _ => IO.println line
  | .call .. => return ()

end Cutover.CommandLine

open Cutover.CommandLine in
/-- Runs the command that the arguments ask for. -/
def main (args : List String) : IO UInt32 := do
  let environ ← readVariables
  match Invocation.parse environ args with
  | .error .help =>
    IO.println usageText
    return 0
  | .error .usage =>
    IO.eprintln usageText
    return usageCode
  | .ok invocation =>
    let files ← readFiles invocation
    let host := unreachable.host maxRounds
    let (outcome, world) := invocation.run files environ host ⟨(), 0, #[]⟩
    for e in world.journal do
      printEntry e
    if let .failed failure := outcome then
      IO.eprintln (errorLine failure)
    return exitCode outcome
