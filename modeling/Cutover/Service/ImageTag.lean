/-
**Image tags.**

The tag of the version to deploy is given on the command line or by the environment, and takes the
place of a placeholder in the images of a container template.

Main definitions:

* `Cutover.Service.resolveImageTag` — the tag to deploy;
* `Cutover.Service.tagTemplate` — the tag is put into a template, in place;
* `Cutover.Service.applyImageTag` — a template with the tag put in.
-/
import Cutover.Container.Definition
import Cutover.Failure

set_option autoImplicit false

namespace Cutover.Service

/-- The tag to deploy: the given one, or else that of the environment; it may not be empty. -/
def resolveImageTag (given fromEnvironment : Option String) : Except Failure String :=
  match (given.or fromEnvironment).filter (fun tag => !tag.isEmpty) with
  | some tag => .ok tag
  | none => .error .imageTagMissing

/-- What the tag takes the place of. -/
def placeholder : String := "$\x7bIMAGE_TAG\x7d"

/-- Whether a text starts with the placeholder. -/
def startsWithPlaceholder (cs : List Char) : Bool := placeholder.toList.isPrefixOf cs

/-- Whether the placeholder stands somewhere in a text. -/
def hasPlaceholder : List Char → Bool
  | [] => false
  | c :: cs => startsWithPlaceholder (c :: cs) || hasPlaceholder cs

/-- The text with every placeholder replaced, from left to right. -/
def substitute (tag : List Char) : List Char → List Char
  | [] => []
  | c :: cs =>
    if startsWithPlaceholder (c :: cs) then
      tag ++ substitute tag (cs.drop (placeholder.length - 1))
    else c :: substitute tag cs
termination_by cs => cs.length
decreasing_by all_goals simp; try omega

/-- A container whose image has the tag in place of the placeholder. -/
def withImageTag (tag : String) (d : Container.Definition) : Container.Definition :=
  { d with image := String.ofList (substitute tag.toList d.image.toList) }

/-- The tag is put into the containers of a template, one after the other and in place, as far as
their images have a place for it; the number says how many have taken it. -/
def putImageTag (tag : String) : List Container.Definition → List Container.Definition × Nat
  | [] => ([], 0)
  | d :: rest =>
    let (rest, applied) := putImageTag tag rest
    if hasPlaceholder d.image.toList then (withImageTag tag d :: rest, applied + 1)
    else (d :: rest, applied)

/-- What comes of putting the tag into a template, and the template as it stands then; at least one
image has to have a place for it. -/
def tagTemplate (service tag : String) (ds : List Container.Definition) :
    Except Failure Unit × List Container.Definition :=
  let (tagged, applied) := putImageTag tag ds
  if applied = 0 then (.error (.imageTagNotApplied service tag), tagged) else (.ok (), tagged)

/-- A template with the tag put in. -/
def applyImageTag (service tag : String) (ds : List Container.Definition) :
    Except Failure (List Container.Definition) :=
  match tagTemplate service tag ds with
  | (.ok (), tagged) => .ok tagged
  | (.error e, _) => .error e

end Cutover.Service
