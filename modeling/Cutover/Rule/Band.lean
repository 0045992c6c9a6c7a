/-
**Priorities of planned rules.**

Planned rules are grouped by the set of hosts that they are for.  Each group has a band of
priorities of its own, and the bands follow one another in the order in which the groups are first
seen.  Inside a band the rules stand at regular steps, those with the deepest paths first, so that
a rule for a part of a site is tried before the rule for the whole of it.

Main definitions:

* `Cutover.Rule.Planned` — a rule that is to be created;
* `Cutover.Rule.groupByHosts` — the groups;
* `Cutover.Rule.assignPriorities` — the rules with their priorities, or the first group that does
  not fit into its band.
-/
import Cutover.Rule.Basic

set_option autoImplicit false

namespace Cutover.Rule

/-- A rule that is to be created for a copilot rule. -/
structure Planned where
  /-- The copilot rule that it follows. -/
  copilotRuleArn : String
  service : String
  depth : Nat
  definition : Definition
deriving DecidableEq

/-- Planned rules for one set of hosts. -/
structure Group where
  hostHeaders : List String
  rules : List Planned
deriving DecidableEq

/-- The groups with one more rule at the end of the group for its hosts. -/
def addToGroups (rule : Planned) : List Group → List Group
  | [] => [⟨rule.definition.hostHeaders, [rule]⟩]
  | g :: rest =>
    if g.hostHeaders = rule.definition.hostHeaders then
      ⟨g.hostHeaders, g.rules ++ [rule]⟩ :: rest
    else g :: addToGroups rule rest

/-- The groups of planned rules, in the order in which their hosts are first seen. -/
def groupByHosts (rules : List Planned) : List Group :=
  rules.foldl (fun groups rule => addToGroups rule groups) []

/-- The first priority of the first band. -/
def startingPriority : Nat := 10000

/-- The step between rules of one band. -/
def priorityStep : Nat := 100

/-- The width of a band. -/
def bandWidth : Nat := 1000

/-- How many rules fit into a band. -/
def bandCapacity : Nat := bandWidth / priorityStep

/-- The rules at regular steps from a priority on. -/
def spaced : Nat → List Planned → List Planned
  | _, [] => []
  | priority, rule :: rest =>
    { rule with definition := { rule.definition with priority } } ::
      spaced (priority + priorityStep) rest

/-- The rules with the deepest paths first; equal depths keep their order. -/
def deepestFirst (rules : List Planned) : List Planned :=
  rules.mergeSort (fun a b => b.depth ≤ a.depth)

/-- The last priority of so many rules from a priority on. -/
def lastPriority (start count : Nat) : Nat := start + (count - 1) * priorityStep

/-- The start of the first band behind a priority. -/
def nextBand (last : Nat) : Nat := (last / bandWidth + 1) * bandWidth

/-- The rules of groups whose first band starts at a priority, or the first group that does not
fit. -/
def assignFrom : Nat → List Group → Except Failure (List Planned)
  | _, [] => .ok []
  | start, g :: rest =>
    if bandCapacity < g.rules.length then
      .error (.priorityBandExceeded g.hostHeaders g.rules.length bandCapacity)
    else do
      let more ← assignFrom (nextBand (lastPriority start g.rules.length)) rest
      return spaced start (deepestFirst g.rules) ++ more

/-- The rules of groups with their priorities, or the first group that does not fit. -/
def assignPriorities (groups : List Group) : Except Failure (List Planned) :=
  assignFrom startingPriority groups

end Cutover.Rule
