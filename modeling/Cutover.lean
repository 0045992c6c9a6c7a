import Cutover.Cloud.InMemory
import Cutover.Main
import Cutover.Proofs.Dict
import Cutover.Proofs.InMemory.Convergence
import Cutover.Proofs.InMemory.History
import Cutover.Proofs.InMemory.Lookup
import Cutover.Proofs.InMemory.Others
import Cutover.Proofs.InMemory.Restoration
import Cutover.Proofs.Rule.Completion
import Cutover.Proofs.Rule.Deletion
import Cutover.Proofs.Rule.FailureKind
import Cutover.Proofs.Rule.Ownership
import Cutover.Proofs.Rule.Priority
import Cutover.Proofs.Rule.Untouched
import Cutover.Proofs.Run.Pages
import Cutover.Proofs.Run.Poll
import Cutover.Proofs.Run.Timetable
import Cutover.Proofs.Run.Protocol
import Cutover.Proofs.Service.CallProtocol
import Cutover.Proofs.Service.Decision
import Cutover.Proofs.Service.DeployedTag
import Cutover.Proofs.Service.Launch
import Cutover.Proofs.Service.LogOrder
import Cutover.Proofs.Service.Parts
import Cutover.Proofs.Service.StreamNames
import Cutover.Proofs.Service.StreamPass
import Cutover.Proofs.Service.StreamWait
import Cutover.Proofs.Service.Tail
import Cutover.Proofs.Service.TaskWait
import Cutover.Proofs.Wire.RuleRoundTrip
import Cutover.Proofs.Json.Shape
import Cutover.Proofs.Json.Columns
import Cutover.Proofs.Container.Shapes
import Cutover.Proofs.Service.Template
import Cutover.Proofs.Wire.Registration
import Cutover.Proofs.Rule.Banding
import Cutover.Proofs.Service.Refusal
import Cutover.Proofs.Rule.Accounting
import Cutover.Proofs.Text.ByteOrder
import Cutover.Proofs.Sorting
import Cutover.Proofs.Rule.Partition
import Cutover.Proofs.Rule.Retargeting
import Cutover.Proofs.Rule.Weakening
import Cutover.Proofs.LoadBalancer.Tags
import Cutover.Proofs.Service.Listings
import Cutover.Proofs.Service.Substitution
import Cutover.Proofs.Service.TaggedTemplate
import Cutover.Proofs.Wire.Gathering
import Cutover.Proofs.Service.Searches
import Cutover.Proofs.Config.Defaults
import Cutover.Proofs.Config.AccountId
