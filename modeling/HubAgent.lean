import HubAgent.Lib.Interaction
import HubAgent.Lib.Screening
import HubAgent.Lib.Transition
import HubAgent.Lib.RustStr
import HubAgent.Lib.Segments
import HubAgent.Lib.KeyOrder
import HubAgent.Lib.Ranked
import HubAgent.Lib.Quota
import HubAgent.Lib.SlidingWindow
import HubAgent.Lib.IpAddr
import HubAgent.Lib.Authority
import HubAgent.Lib.StrParts
import HubAgent.Lib.Decimal
import HubAgent.Json
import HubAgent.Kube
import HubAgent.Policy
import HubAgent.Command
import HubAgent.Config
import HubAgent.Api
import HubAgent.Gate
import HubAgent.GateSpec
import HubAgent.Workload
import HubAgent.Executor
import HubAgent.Calls
import HubAgent.LiveCalls
import HubAgent.Approval
import HubAgent.Echo
import HubAgent.Dedup
import HubAgent.Operator
import HubAgent.StatusSpec
import HubAgent.Agreement
import HubAgent.Reconcile
import HubAgent.Freshness
import HubAgent.Cluster
import HubAgent.OptOut
import HubAgent.MergePatch
import HubAgent.StatusWire
import HubAgent.ConfigReaders
import HubAgent.Lifecycle
import HubAgent.LifecycleSpec
import HubAgent.WatchExpiry
import HubAgent.Hub
import HubAgent.HubSpec
import HubAgent.RetryLaw
import HubAgent.HubMetrics
import HubAgent.Leader
import HubAgent.Transitions
import HubAgent.ResourcePath
import HubAgent.Collector
import HubAgent.SecretValues
import HubAgent.Dependencies
import HubAgent.DependencySpec
import HubAgent.EndpointOrder
import HubAgent.EventBuffer
import HubAgent.KprobeEvents
import HubAgent.SilentLoss
import HubAgent.Streams
import HubAgent.StreamManager
import HubAgent.StreamTasks
import HubAgent.Drain
import HubAgent.Environment
import HubAgent.Drift
import HubAgent.Audit
import HubAgent.Quantities
import HubAgent.LimitsGate
import HubAgent.PodUsage
import HubAgent.RolloutSpec
import HubAgent.PodClasses
import HubAgent.DrainReport
import HubAgent.StrategicMerge
import HubAgent.ResourcePatch
import HubAgent.Lib.Slices
import HubAgent.Lib.Fallible
import HubAgent.Prometheus
import HubAgent.Scrape
import HubAgent.Exposition
import HubAgent.ScaleEnvelope
import HubAgent.UpdateImage
import HubAgent.EdgeFidelity
import HubAgent.WarnSuppression
import HubAgent.Tech
import HubAgent.Inventory
import HubAgent.Postgres
import HubAgent.PostgresSpec
import HubAgent.Diagnosis
import HubAgent.Lib.KeyValue
import HubAgent.ProbeSettings
import HubAgent.ConnectionString
import HubAgent.ProbeTls
import HubAgent.SnapshotCaps
import HubAgent.ConfiguredEnv
import HubAgent.WorkloadMonitoring
import HubAgent.PdbSelection
import HubAgent.DurationUses
import HubAgent.DialableEndpoints
import HubAgent.RouteFamilies
import HubAgent.ImageDetection
import HubAgent.Lib.Tokens
import HubAgent.TechStack
import HubAgent.TokenSearch
import HubAgent.Lib.Suffixes
import HubAgent.VersionNormalForm
import HubAgent.Lib.Shared
import HubAgent.LifecycleConvergence
import HubAgent.CommandLoop
import HubAgent.StaleOptOut
import HubAgent.RoleBindings
import HubAgent.Lib.Gather
import HubAgent.AppMetrics
import HubAgent.Election
import HubAgent.WarningLedger
import HubAgent.PodLogs
import HubAgent.Preflight
import HubAgent.PatchFrames
import HubAgent.Lib.Waiting
import HubAgent.BoundedWaits
import HubAgent.DependencyPipeline
import HubAgent.ClusterInventory
import HubAgent.NetworkInventory
import HubAgent.SnapshotContent
import HubAgent.SectionReads
import HubAgent.ProbeStatus
