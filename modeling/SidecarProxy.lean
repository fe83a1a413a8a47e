import SidecarProxy.Catalog.Encode
import SidecarProxy.ControlPlane.Client
import SidecarProxy.ControlPlane.Script
import SidecarProxy.Main
import SidecarProxy.Json.Writer
import SidecarProxy.Refresh.Relay
import SidecarProxy.Settings.Encode
import SidecarProxy.StopSignal
import SidecarProxy.Transfer.Run
import SidecarProxy.Proofs.Pattern.Language
import SidecarProxy.Proofs.Pattern.Budget
import SidecarProxy.Proofs.Route.Declared
import SidecarProxy.Proofs.Route.Filing
import SidecarProxy.Proofs.Route.ProbeKeys
import SidecarProxy.Proofs.Text.Bytes
import SidecarProxy.Proofs.Route.Built
import SidecarProxy.Proofs.Route.PatternReach
import SidecarProxy.Proofs.Route.Reference
import SidecarProxy.Proofs.Route.LiteralReach
import SidecarProxy.Proofs.Settings.Dialable
import SidecarProxy.Proofs.Dispatch.Delivery
import SidecarProxy.Proofs.ModuleCache.Arrival
import SidecarProxy.Proofs.ModuleCache.Flights
import SidecarProxy.Proofs.ModuleCache.SingleFlight
import SidecarProxy.Proofs.ModuleCache.Served
import SidecarProxy.Proofs.ModuleCache.FailedLoad
import SidecarProxy.Proofs.ModuleCache.Freshness
import SidecarProxy.Proofs.ModuleCache.Integrity
import SidecarProxy.Proofs.ModuleCache.SharedLoad
import SidecarProxy.Proofs.Text.Trim
import SidecarProxy.Proofs.Route.InPlace
import SidecarProxy.Proofs.Route.Orderly
import SidecarProxy.Proofs.Route.PublishedRuns
import SidecarProxy.Proofs.Route.FilingRule
import SidecarProxy.Proofs.Resolve.Running
import SidecarProxy.Proofs.Resolve.SharedInterface
import SidecarProxy.Proofs.Resolve.Generations
import SidecarProxy.Proofs.Transfer.Delivery
import SidecarProxy.Proofs.Transfer.Backpressure
import SidecarProxy.Proofs.Exchange.HeaderBoundary
import SidecarProxy.Proofs.Exchange.Correlation
import SidecarProxy.Proofs.Resolve.Contacts
import SidecarProxy.Proofs.Resolve.Priority
import SidecarProxy.Proofs.Retry.Requests
import SidecarProxy.Proofs.Refresh.Turns
import SidecarProxy.Proofs.Refresh.Rounds
import SidecarProxy.Proofs.Dispatch.Forwarding
import SidecarProxy.Proofs.Transfer.Reported
import SidecarProxy.Proofs.Dispatch.Recorded
import SidecarProxy.Proofs.Catalog.Documents
import SidecarProxy.Proofs.StopSignal.Heard
import SidecarProxy.Proofs.Startup.FirstDocument
import SidecarProxy.Proofs.Settings.Limits
import SidecarProxy.Proofs.ControlPlane.Requested
import SidecarProxy.Proofs.Dispatch.Discretion
import SidecarProxy.Proofs.Metrics.Readings
import SidecarProxy.Proofs.ModuleCache.Lookups
import SidecarProxy.Proofs.Route.TableMetrics
import SidecarProxy.Proofs.Route.ModuleOrder
import SidecarProxy.Proofs.Pattern.TrialBound
import SidecarProxy.Proofs.Retry.Attempts
import SidecarProxy.Proofs.Retry.Delays
import SidecarProxy.Proofs.ModuleCache.Eviction
import SidecarProxy.Proofs.Dispatch.MountedPaths
import SidecarProxy.Proofs.Resolve.NamedModules
import SidecarProxy.Proofs.Route.Rejections
import SidecarProxy.Proofs.Settings.Independence
import SidecarProxy.Proofs.Refresh.Relayed
import SidecarProxy.Proofs.Route.ProbeSequence
