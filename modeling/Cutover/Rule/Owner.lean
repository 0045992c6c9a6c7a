/-
**Who owns a listener rule.**

Several automations share a listener.  Rules made here and rules of the maintenance page are known
by their tags; the rest by their priority: the default rule has none, and the copilot automation
uses high numbers.  What is left was made by hand.

Main definitions:

* `Cutover.Rule.Owner` and `Cutover.ListenerRule.owner`;
* `Cutover.Rule.Classified` — rules by owner, each list in the order of the listener.
-/
import Cutover.Rule.Basic

set_option autoImplicit false

namespace Cutover

namespace Rule

/-- Who owns a rule. -/
inductive Owner
  | platform
  | maintenance
  | default
  | copilot
  | manual
deriving DecidableEq

/-- The word for an owner. -/
def Owner.name : Owner → String
  | .platform => "platform"
  | .maintenance => "maintenance"
  | .default => "default"
  | .copilot => "copilot"
  | .manual => "manual"

/-- The least priority that the copilot automation gives to a rule. -/
def copilotPriority : Nat := 48000

/-- The tag under which a resource names the automation that manages it. -/
def managedByTag : String := "managed-by"

/-- The name of this automation on the rules that it creates. -/
def managedByPlatform : String := "DBT Platform"

/-- The names that rules of the maintenance page have in their tags. -/
def maintenanceNames : List String :=
  ["MaintenancePage", "AllowedIps", "BypassIpFilter", "AllowedSourceIps"]

end Rule

open Rule

/-- The owner of a rule: the first of the marks that it has. -/
def ListenerRule.owner (r : ListenerRule) : Owner :=
  if r.tags.hasValue managedByTag managedByPlatform then .platform
  else if ((r.tags.find? "name").any (maintenanceNames.contains ·)) then .maintenance
  else
    match r.priority with
    | .default => .default
    | .number n => if copilotPriority ≤ n then .copilot else .manual

namespace Rule

/-- Rules by owner, each list in the order of the listener. -/
structure Classified where
  platform : List ListenerRule
  maintenance : List ListenerRule
  default : List ListenerRule
  copilot : List ListenerRule
  manual : List ListenerRule
deriving DecidableEq

/-- The rules of one owner. -/
def ownedBy (o : Owner) (rules : List ListenerRule) : List ListenerRule :=
  rules.filter (·.owner = o)

/-- Rules sorted out by owner. -/
def classify (rules : List ListenerRule) : Classified where
  platform := ownedBy .platform rules
  maintenance := ownedBy .maintenance rules
  default := ownedBy .default rules
  copilot := ownedBy .copilot rules
  manual := ownedBy .manual rules

end Rule

end Cutover
