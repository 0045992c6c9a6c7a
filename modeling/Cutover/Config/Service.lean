/-
**The configuration of a service.**

Beside the platform configuration lies a tree of generated files, one for each service in each
environment, which say how many tasks the service runs and how large they are.

Main definitions:

* `Cutover.ServiceConfig` — what a deployment needs to know of a service;
* `Cutover.ServiceConfig.path`, `Cutover.ServiceConfig.load` — where it is, and what it says.
-/
import Cutover.Failure
import Cutover.File.Files
import Cutover.Yaml.Reading

set_option autoImplicit false

namespace Cutover

/-- What a deployment needs to know of a service. -/
structure ServiceConfig where
  name : String
  type : String
  /-- How many tasks run. -/
  count : Nat
  cpu : Nat
  memory : Nat
deriving DecidableEq

namespace ServiceConfig

/-- The fields read so far; numbers that are left out have defaults. -/
structure Partial where
  name : Option String
  type : Option String
  count : Nat
  cpu : Nat
  memory : Nat

/-- A file in which nothing is written. -/
def blank : Partial := ⟨none, none, 1, 256, 512⟩

/-- The fields of the file. -/
def fields : List String := ["name", "type", "count", "cpu", "memory"]

/-- The configuration read from a tree. -/
def read (d : Yaml.Tree) (n : Yaml.Node) : Yaml.Reading ServiceConfig := do
  let step (name : String) (n : Yaml.Node) (s : Partial) : Yaml.Reading Partial := do
    if name = "name" then return { s with name := some (← Yaml.Reading.text d n) }
    else if name = "type" then return { s with type := some (← Yaml.Reading.text d n) }
    else if name = "count" then return { s with count := ← Yaml.Reading.natural32 d n }
    else if name = "cpu" then return { s with cpu := ← Yaml.Reading.natural32 d n }
    else return { s with memory := ← Yaml.Reading.natural32 d n }
  let s ← Yaml.Reading.record d fields step blank n
  return {
    name := ← Yaml.Reading.require "name" s.name
    type := ← Yaml.Reading.require "type" s.type
    count := s.count
    cpu := s.cpu
    memory := s.memory }

/-- The configuration in a text. -/
def ofYaml (text : String) : Except Failure ServiceConfig :=
  match Yaml.Reading.document? read text.toList with
  | .ok config => .ok config
  | .error e => .error (.yaml e)

/-- Where the configuration of a service in an environment is, below a directory. -/
def path (baseDir environment service : String) : String :=
  ["terraform", "services", environment, service, "service-config.yml"].foldl Path.join baseDir

/-- The configuration of a service in an environment. -/
def load (files : Files) (baseDir environment service : String) :
    Except Failure ServiceConfig :=
  let path := path baseDir environment service
  match files.read path with
  | .ok text => ofYaml text
  | .error e => .error (.config ("Unable to read " ++ path ++ ": " ++ e.message))

end ServiceConfig

end Cutover
