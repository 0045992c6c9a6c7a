/-
**Resources of a cloud account.**

What a listing of an account returns: load balancers with their listeners, certificates and target
groups, tags, log events and stored parameters.  A listing comes in pages, each with a marker for
the next one.

Main definitions:

* `Cutover.Page` — a page of a listing;
* `Cutover.Listener`, `Cutover.TargetGroup`, `Cutover.Certificate`, `Cutover.TagDescription`,
  `Cutover.LogEvent`, `Cutover.Parameter` — the resources.
-/
import Cutover.Dict

set_option autoImplicit false

namespace Cutover

/-- A page of a listing, with the marker of the next one. -/
structure Page (α : Type) where
  items : List α
  next : Option String
deriving DecidableEq

/-- A listener of a load balancer. -/
structure Listener where
  arn : String
  protocol : Option String
deriving DecidableEq

/-- How the targets of a group are checked. -/
structure TargetHealthCheck where
  protocol : Option String
  port : Option String
  path : Option String
  intervalSeconds : Option Int
  healthyThreshold : Option Int
  unhealthyThreshold : Option Int
deriving DecidableEq

/-- A group of targets that requests are forwarded to. -/
structure TargetGroup where
  arn : String
  name : String
  healthCheck : TargetHealthCheck
  tags : Tags
deriving DecidableEq

/-- A certificate of a listener. -/
structure Certificate where
  arn : String
  isDefault : Bool
deriving DecidableEq

/-- The tags of one resource. -/
structure TagDescription where
  resourceArn : String
  tags : Tags
deriving DecidableEq

/-- A line of a log, with its time in milliseconds. -/
structure LogEvent where
  stream : String
  timestamp : Int
  message : String
deriving DecidableEq

/-- A stored parameter. -/
structure Parameter where
  name : String
  value : String
deriving DecidableEq

end Cutover
