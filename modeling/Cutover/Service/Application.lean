/-
**Applications.**

The environments and services of an application are stored as parameters below the application's
own one, each of them a small record.

Main definitions:

* `Cutover.Application` — an application, and `Application.environment`;
* `Cutover.Application.load` — the application as it is stored.
-/
import Cutover.Cloud.Listing
import Cutover.Json.Record

set_option autoImplicit false

namespace Cutover

variable {σ : Type}

/-- An environment that is deployed. -/
structure DeployedEnvironment where
  name : String
  accountId : String
deriving DecidableEq

/-- A service that is deployed. -/
structure DeployedService where
  name : String
  type : String
deriving DecidableEq

/-- An application with its environments and services by name. -/
structure Application where
  name : String
  environments : Dict DeployedEnvironment
  services : Dict DeployedService
deriving DecidableEq

namespace Application

/-- An environment of the application. -/
def environment (a : Application) (name : String) : Except Failure DeployedEnvironment :=
  match a.environments.find? name with
  | some e => .ok e
  | none => .error (.environmentNotFound a.name name)

/-- The parameters below a path. -/
def parametersBelow (path : String) (recursive : Bool) : Run σ (List Parameter) :=
  Run.listAll (fun token => Run.call (.getParametersByPath path recursive token))

/-- The two texts of a record of two fields. -/
def pairOf (fields : List Json.Field) (p : Parameter) : Except Failure (String × String) :=
  match Json.readRecord? fields p.value with
  | .ok [a, b] => .ok (a, b)
  | .ok _ => .error (.json (.malformed "record of another size"))
  | .error e => .error (.json e)

/-- The records of parameters, or the first that is malformed. -/
def pairsOf (fields : List Json.Field) :
    List Parameter → Except Failure (List (String × String))
  | [] => .ok []
  | p :: rest => do
    let pair ← pairOf fields p
    return pair :: (← pairsOf fields rest)

/-- The fields of an environment. -/
def environmentFields : List Json.Field := [⟨"name", none⟩, ⟨"accountID", some ""⟩]

/-- The fields of a service. -/
def serviceFields : List Json.Field := [⟨"name", none⟩, ⟨"type", none⟩]

/-- The parameter of an application. -/
def rootPath (application : String) : String := "/copilot/applications/" ++ application

/-- The parameter of an application has to be there. -/
def checkExists (application : String) : Run σ Unit := do
  match ← Run.attempt (Run.call (.getParameter (rootPath application))) with
  | .ok _ => return ()
  | .error (.parameterNotFound _) => Run.fail (.applicationNotFound application)
  | .error e => Run.fail e

/-- The application as it is stored. -/
def load (application : String) : Run σ Application := do
  checkExists application
  let stored ← parametersBelow (rootPath application ++ "/environments/") false
  let environments ← Run.ofExcept (pairsOf environmentFields stored)
  let stored ← parametersBelow (rootPath application ++ "/components") false
  let services ← Run.ofExcept (pairsOf serviceFields stored)
  return {
    name := application
    environments := Dict.ofList (environments.map (fun p => (p.1, ⟨p.1, p.2⟩)))
    services := Dict.ofList (services.map (fun p => (p.1, ⟨p.1, p.2⟩))) }

end Application

end Cutover
