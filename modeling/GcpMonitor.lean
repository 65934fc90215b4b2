import GcpMonitor.Library.TransitionSystem
import GcpMonitor.Library.GreedyPacking
import GcpMonitor.Logs.SelfMonitoring
import GcpMonitor.Logs.PrepareBatches
import GcpMonitor.Library.TaskPool
import GcpMonitor.Logs.DynatraceClient
import GcpMonitor.Logs.PushLogs
import GcpMonitor.Logs.ClassifiedRequests
import GcpMonitor.Python.Error
import GcpMonitor.Logs.PullAndPush
import GcpMonitor.Logs.TokenRefresh
import GcpMonitor.Python.JsonText
import GcpMonitor.Logs.CommonRules
import GcpMonitor.Logs.MetadataEngine
import GcpMonitor.Logs.ProcessMessage
import GcpMonitor.Logs.LogContent
import GcpMonitor.Logs.LimitedPayload
import GcpMonitor.Logs.ConfigRules
import GcpMonitor.Logs.RuleTurns
import GcpMonitor.Logs.LogTimestamp
import GcpMonitor.Logs.PulledCounters
import GcpMonitor.Logs.PushedCounters
import GcpMonitor.Logs.ConservedCounters
import GcpMonitor.Library.Timeline
import GcpMonitor.Metrics.ExecutionTime
import GcpMonitor.Library.EscapedText
import GcpMonitor.Python.Text
import GcpMonitor.Metrics.Dimensions
import GcpMonitor.Library.OrderedDict
import GcpMonitor.Library.SetIteration
import GcpMonitor.Python.Value
import GcpMonitor.Python.Arithmetic
import GcpMonitor.Metrics.DistributionLine
import GcpMonitor.Metrics.Aggregation
import GcpMonitor.Python.Yaml
import GcpMonitor.Python.Json
import GcpMonitor.Metrics.Service
import GcpMonitor.Library.ExceptList
import GcpMonitor.Configuration.Activation
import GcpMonitor.Configuration.Extensions
import GcpMonitor.Configuration.HotReload
import GcpMonitor.Configuration.FilterOutList
import GcpMonitor.Metrics.Exclusion
import GcpMonitor.Metrics.CreateDimensions
import GcpMonitor.Metrics.FetchMetric
import GcpMonitor.Metrics.ExcludedDimensions
import GcpMonitor.Metrics.ProjectSelection
import GcpMonitor.Metrics.PushToDynatrace
import GcpMonitor.Metrics.PushIngestLines
import GcpMonitor.Metrics.PushMoves
import GcpMonitor.Metrics.PushOrder
import GcpMonitor.Metrics.PushInvariants
import GcpMonitor.Metrics.ConcurrentPush
import GcpMonitor.Autodiscovery.TaskExecutor
import GcpMonitor.Autodiscovery.MainLoop
import GcpMonitor.Metrics.LineAccounting
import GcpMonitor.Entities.Extractors
import GcpMonitor.Entities.EntityIds
import GcpMonitor.Entities.GoogleApi
import GcpMonitor.Entities.EnrichedLine
import GcpMonitor.Entities.ResourceAddresses
import GcpMonitor.Entities.MappedAddresses
import GcpMonitor.Entities.EnrichedAddress
import GcpMonitor.Metrics.FetchIngestLines
import GcpMonitor.Library.Grouping
import GcpMonitor.Autodiscovery.Descriptors
import GcpMonitor.Autodiscovery.Discovery
import GcpMonitor.Autodiscovery.DiscoveredOnce
import GcpMonitor.Autodiscovery.ExistingMetrics
import GcpMonitor.Autodiscovery.LinkedServices
import GcpMonitor.Library.ListBlocks
import GcpMonitor.Metrics.BoundedLateness
import GcpMonitor.Metrics.DistinctSeries
import GcpMonitor.Metrics.IngestResponse
import GcpMonitor.Metrics.FatalStatus
import GcpMonitor.Configuration.ExtensionVersions
import GcpMonitor.Configuration.ExtensionCache
import GcpMonitor.Metrics.DuplicateSeries
import GcpMonitor.Library.Histogram
import GcpMonitor.Metrics.ExtractValue
import GcpMonitor.Metrics.DistributionSummary
import GcpMonitor.Metrics.PercentScaling
import GcpMonitor.Metrics.FetchRequests
import GcpMonitor.Metrics.FetchPages
import GcpMonitor.Library.RequestLoop
import GcpMonitor.Paging.TokenLoops
import GcpMonitor.Paging.EveryPage
import GcpMonitor.Autodiscovery.ProjectIds
import GcpMonitor.Autodiscovery.ResourceDescriptors
import GcpMonitor.Metrics.MetadataLines
import GcpMonitor.Autodiscovery.MetricMetadata
import GcpMonitor.Metrics.FilterTemplates
import GcpMonitor.Metrics.RemovedVariables
import GcpMonitor.Metrics.MonitoringFilter
import GcpMonitor.Library.BinaryRounding
import GcpMonitor.Python.Float
import GcpMonitor.Python.Datetime
import GcpMonitor.Python.Strptime
import GcpMonitor.Metrics.Milliseconds
import GcpMonitor.Metrics.PointTimestamps
import GcpMonitor.Library.Reconciliation
import GcpMonitor.SelfMonitoring.DescriptorRequests
import GcpMonitor.SelfMonitoring.DescriptorMoves
import GcpMonitor.SelfMonitoring.DescriptorReconciliation
import GcpMonitor.SelfMonitoring.MetricDescriptors
import GcpMonitor.Library.Tally
import GcpMonitor.SelfMonitoring.TimeSeries
import GcpMonitor.SelfMonitoring.LogTimeSeries
import GcpMonitor.SelfMonitoring.LogLoop
import GcpMonitor.Logs.DeliverySystem
import GcpMonitor.Logs.HeldMessages
import GcpMonitor.Logs.MessageDelivery
import GcpMonitor.Logs.DeliveryProgress
import GcpMonitor.Library.TextReader
import GcpMonitor.Python.JsonLoads
import GcpMonitor.Python.JsonStrings
import GcpMonitor.Python.JsonNumbers
import GcpMonitor.Python.JsonDumps
import GcpMonitor.Python.JsonRoundTrip
import GcpMonitor.Logs.KeptValues
import GcpMonitor.Logs.RequestBody
import GcpMonitor.Metrics.PushAccounting
import GcpMonitor.Metrics.CycleAccounting
import GcpMonitor.SelfMonitoring.PollingSeries
import GcpMonitor.Metrics.LineSources
import GcpMonitor.Metrics.ToldLines
import GcpMonitor.Metrics.DeliveredLines
import GcpMonitor.Metrics.LineReader
import GcpMonitor.Logs.RefreshLock
