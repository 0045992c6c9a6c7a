/-
**Stored container templates.**

The template of a service is an object in a bucket of its environment: a list of containers, or an
object that holds the list under a name.

Main definitions:

* `Cutover.Service.templateOf` — the template in the bytes of a stored object;
* `Cutover.Service.containerDefinitions` — the template of a service.
-/
import Cutover.Cloud.Run
import Cutover.Container.Codec
import Cutover.Json.Reader
import Cutover.Service.Names

set_option autoImplicit false

namespace Cutover.Service

variable {σ : Type}

/-- The name under which an object may hold the list of containers. -/
def wrapperMember : String := "containerDefinitions"

/-- The tree of the list of containers, or why there is none. -/
def templateTree : Json.Value → Except String Json.Value
  | .object members =>
    match members.lookup wrapperMember with
    | some v => .ok v
    | none => .error "no containerDefinitions in object"
  | v => .ok v

/-- The template in the bytes of a stored object, or the reason why there is none. -/
def templateOf (body : ByteArray) : Except String (List Container.Definition) := do
  let stored ← (Json.Value.readBytes? body).mapError (·.message)
  (Container.templateCodec.decode (← templateTree stored)).mapError (·.message)

/-- The template of a service in an environment. -/
def containerDefinitions (application environment service : String) :
    Run σ (List Container.Definition) := do
  let bucket := bucket application environment
  let key := objectKey application environment service
  let notFound (reason : String) : Failure := .containerDefinitionsNotFound bucket key reason
  match ← Run.attempt (Run.call (.getObject bucket key)) with
  | .error e => Run.fail (notFound e.message)
  | .ok body => Run.ofExcept ((templateOf body).mapError notFound)

end Cutover.Service
