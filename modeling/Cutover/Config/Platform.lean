/-
**The platform configuration.**

The configuration names the application and its environments.  The environment named by a star
holds defaults: each key of it goes into every other environment that does not have the key, and
only then is the environment read.  Callers see environments that are complete.

Main definitions:

* `Cutover.DeploymentMode` — how an environment routes its traffic;
* `Cutover.PlatformConfig` — the configuration; `PlatformConfig.ofYaml` reads it and
  `PlatformConfig.environment` looks an environment up;
* `Cutover.RawConfig` — the document before defaults are put in, and `RawConfig.enrich`.
-/
import Cutover.Dict
import Cutover.Failure
import Cutover.File.Files
import Cutover.Yaml.Reading
import Cutover.Yaml.Record

set_option autoImplicit false

namespace Cutover

/-- How an environment routes its traffic. -/
inductive DeploymentMode
  | copilot
  | platform
  | dualDeployCopilotTraffic
  | dualDeployPlatformTraffic
deriving DecidableEq

namespace DeploymentMode

/-- The word for a mode. -/
def name : DeploymentMode → String
  | .copilot => "copilot"
  | .platform => "platform"
  | .dualDeployCopilotTraffic => "dual-deploy-copilot-traffic"
  | .dualDeployPlatformTraffic => "dual-deploy-platform-traffic"

/-- The mode with a name. -/
def ofName? (s : String) : Option DeploymentMode :=
  [copilot, platform, dualDeployCopilotTraffic, dualDeployPlatformTraffic].find? (·.name == s)

/-- Whether platform rules stand beside the copilot rules. -/
def routesPlatformTraffic : DeploymentMode → Bool
  | .platform | .dualDeployPlatformTraffic => true
  | .copilot | .dualDeployCopilotTraffic => false

/-- Whether there are no platform rules. -/
def routesCopilotTraffic (m : DeploymentMode) : Bool := !m.routesPlatformTraffic

end DeploymentMode

/-- A cloud account. -/
structure Account where
  name : String
  id : String
deriving DecidableEq

/-- An environment with its defaults. -/
structure EnvironmentConfig where
  mode : DeploymentMode
  deployAccount : Option Account
  dnsAccount : Option Account
  vpc : Option String
deriving DecidableEq

/-- The platform configuration. -/
structure PlatformConfig where
  application : String
  environments : Dict EnvironmentConfig
deriving DecidableEq

open Yaml (Value Mapping Record.fold Record.require Record.text Record.optional Record.word)

/-! ### Environments -/

mutual

/-- Whether a value has a tag somewhere inside it. -/
def hasTag : Value → Bool
  | .tagged .. => true
  | .sequence items => anyHasTag items
  | .mapping entries => anyEntryHasTag entries
  | _ => false

/-- Whether one of the values has a tag somewhere inside it. -/
def anyHasTag : List Value → Bool
  | [] => false
  | v :: vs => hasTag v || anyHasTag vs

/-- Whether one of the keys and values has a tag somewhere inside it. -/
def anyEntryHasTag : List (Value × Value) → Bool
  | [] => false
  | (k, v) :: rest => hasTag k || hasTag v || anyEntryHasTag rest

end

/-- An account id: text, or a number in its digits. -/
def Account.idOfValue (v : Value) : Except Document.Error String :=
  match v with
  | .string s => .ok s
  | .number (.integer (.ofNat n)) => .ok (toString n)
  | v => if hasTag v then .error (.malformed "tag in alternatives") else .error .noVariant

/-- An account. -/
def Account.ofValue (v : Value) : Except Document.Error Account := do
  let step (name : String) (v : Value) (s : Option String × Option String) :
      Except Document.Error (Option String × Option String) := do
    if name = "name" then return (some (← Record.text v), s.2)
    else return (s.1, some (← idOfValue v))
  let s ← Record.fold ["name", "id"] step (none, none) v
  return ⟨← Record.require "name" s.1, ← Record.require "id" s.2⟩

/-- The accounts of an environment: the one to deploy to, and the one that holds its domain. -/
def EnvironmentConfig.accountsOfValue (v : Value) :
    Except Document.Error (Option Account × Option Account) :=
  Record.fold ["deploy", "dns"]
    (fun name v s => do
      let account ← Record.optional Account.ofValue v
      if name = "deploy" then return (account, s.2) else return (s.1, account))
    (none, none) v

/-- An environment. -/
def EnvironmentConfig.ofValue (v : Value) : Except Document.Error EnvironmentConfig :=
  Record.fold ["service-deployment-mode", "accounts", "vpc"]
    (fun name v e => do
      if name = "service-deployment-mode" then
        return { e with mode := ← Record.word DeploymentMode.ofName? v }
      else if name = "accounts" then
        let (deploy, dns) ← accountsOfValue v
        return { e with deployAccount := deploy, dnsAccount := dns }
      else return { e with vpc := ← Record.optional Record.text v })
    ⟨.copilot, none, none, none⟩ v

/-! ### Defaults -/

/-- The document before defaults are put in. -/
structure RawConfig where
  application : String
  environments : Dict (Option Value)

/-- The name of the environment that holds the defaults. -/
def RawConfig.defaultsName : String := "*"

namespace RawConfig

/-- The fields of the document. -/
def fields : List String := ["application", "environments"]

/-- The document read from a tree. -/
def read (d : Yaml.Tree) (n : Yaml.Node) : Yaml.Reading RawConfig := do
  let step (name : String) (n : Yaml.Node) (s : Option String × Dict (Option Value)) :
      Yaml.Reading (Option String × Dict (Option Value)) := do
    if name = "application" then return (some (← Yaml.Reading.text d n), s.2)
    else
      let bodies ← Yaml.Reading.byName d (Yaml.Reading.optional d (Yaml.Reading.maxDepth - 2)) n
      return (s.1, bodies)
  let (application, environments) ← Yaml.Reading.record d fields step (none, .empty) n
  return ⟨← Yaml.Reading.require "application" application, environments⟩

/-- The entries of an environment; a body that is left out has none. -/
def entriesOf : Option Value → Except Failure Mapping
  | none => .ok []
  | some .null => .ok []
  | some (.mapping m) => .ok m
  | some v => .error (.config ("Environment configuration must be a mapping, got " ++ v.describe))

/-- An environment with defaults put in. -/
def environmentOf (defaults : Mapping) (body : Option Value) :
    Except Failure EnvironmentConfig := do
  let merged := defaults.override (← entriesOf body)
  match EnvironmentConfig.ofValue (.mapping merged) with
  | .ok e => return e
  | .error e => throw (.yaml e)

/-- Environments with defaults put in, or the first failure. -/
def environmentsOf (defaults : Mapping) :
    List (String × Option Value) → Except Failure (List (String × EnvironmentConfig))
  | [] => .ok []
  | (name, body) :: rest => do
    let e ← environmentOf defaults body
    return (name, e) :: (← environmentsOf defaults rest)

/-- The configuration: the defaults are put into every environment but their own. -/
def enrich (raw : RawConfig) : Except Failure PlatformConfig := do
  let defaults ← entriesOf ((raw.environments.find? defaultsName).getD none)
  let named := raw.environments.erase defaultsName
  return ⟨raw.application, Dict.ofList (← environmentsOf defaults named.entries)⟩

end RawConfig

namespace PlatformConfig

/-- Where the configuration is by default. -/
def defaultPath : String := "platform-config.yml"

/-- The configuration in a text. -/
def ofYaml (text : String) : Except Failure PlatformConfig :=
  match Yaml.Reading.document? RawConfig.read text.toList with
  | .ok raw => raw.enrich
  | .error e => .error (.yaml e)

/-- The configuration in a file. -/
def load (files : Files) (path : String) : Except Failure PlatformConfig :=
  match files.read path with
  | .ok text => ofYaml text
  | .error e => .error (.config ("Unable to read " ++ path ++ ": " ++ e.message))

/-- An environment by its name. -/
def environment (config : PlatformConfig) (name : String) : Except Failure EnvironmentConfig :=
  match config.environments.find? name with
  | some e => .ok e
  | none => .error (.environmentNotFound config.application name)

end PlatformConfig

end Cutover
