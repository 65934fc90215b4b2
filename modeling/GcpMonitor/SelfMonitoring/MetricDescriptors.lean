import GcpMonitor.Python.Text
import Mathlib.Data.Char
import Mathlib.Data.List.Lex
import Mathlib.Data.List.Sort

namespace GcpMonitor.SelfMonitoring

structure LabelDescriptor where
  key : Option Text
  deriving DecidableEq

/-- What the integration says of a metric, and what Google Cloud lists of it; a field is none where
it is left out. -/
structure MetricDescriptor where
  type : Option Text
  valueType : Option Text
  metricKind : Option Text
  displayName : Option Text
  labels : Option (List LabelDescriptor)
  deriving DecidableEq

def extractLabelKeys (metricDescriptor : MetricDescriptor) : List Text :=
  ((metricDescriptor.labels.getD []).map (fun label => label.key.getD [])).insertionSort
    (fun a b => a ≤ b)

def selfMonitoringMetricPrefix : String := "custom.googleapis.com/dynatrace"

def logSelfMonitoringMetricPrefix : String := "custom.googleapis.com/dynatrace/logs"

inductive ValueType where
  | int64
  | double
  deriving DecidableEq

def ValueType.text : ValueType → Text
  | .int64 => "INT64".toList
  | .double => "DOUBLE".toList

def gaugeDescriptor (type : Text) (valueType : ValueType) (displayName : String)
    (labels : List String) : MetricDescriptor where
  type := some type
  valueType := some valueType.text
  metricKind := some "GAUGE".toList
  displayName := some displayName.toList
  labels := some (labels.map (fun key => ⟨some key.toList⟩))

section Metrics

def selfMonitoringConnectivityMetricType : Text :=
  (selfMonitoringMetricPrefix ++ "/connectivity").toList

def selfMonitoringIngestLinesMetricType : Text :=
  (selfMonitoringMetricPrefix ++ "/ingest_lines").toList

def selfMonitoringRequestCountMetricType : Text :=
  (selfMonitoringMetricPrefix ++ "/request_count").toList

def selfMonitoringPhaseExecutionTimeMetricType : Text :=
  (selfMonitoringMetricPrefix ++ "/phase_execution_time").toList

def selfMonitoringConnectivityMetricDescriptor : MetricDescriptor :=
  gaugeDescriptor selfMonitoringConnectivityMetricType .int64 "Dynatrace Integration Connectivity"
    ["function_name", "dynatrace_tenant_url", "reason"]

def selfMonitoringIngestLinesMetricDescriptor : MetricDescriptor :=
  gaugeDescriptor selfMonitoringIngestLinesMetricType .int64
    "Dynatrace Integration Ingest Lines Count"
    ["function_name", "dynatrace_tenant_url", "project_id", "status"]

def selfMonitoringRequestCountMetricDescriptor : MetricDescriptor :=
  gaugeDescriptor selfMonitoringRequestCountMetricType .int64
    "Dynatrace Integration Request Count"
    ["function_name", "dynatrace_tenant_url", "response_code"]

def selfMonitoringPhaseExecutionTimeMetricDescriptor : MetricDescriptor :=
  gaugeDescriptor selfMonitoringPhaseExecutionTimeMetricType .double
    "Dynatrace Integration Phase Execution Time"
    ["function_name", "dynatrace_tenant_url", "project_id", "phase"]

def selfMonitoringMetricMap : List (Text × MetricDescriptor) :=
  [(selfMonitoringConnectivityMetricType, selfMonitoringConnectivityMetricDescriptor),
    (selfMonitoringIngestLinesMetricType, selfMonitoringIngestLinesMetricDescriptor),
    (selfMonitoringRequestCountMetricType, selfMonitoringRequestCountMetricDescriptor),
    (selfMonitoringPhaseExecutionTimeMetricType, selfMonitoringPhaseExecutionTimeMetricDescriptor)]

end Metrics

section Logs

def logSelfMonitoringAllRequestsMetricType : Text :=
  (logSelfMonitoringMetricPrefix ++ "/all_requests").toList

def logSelfMonitoringConnectivityMetricType : Text :=
  (logSelfMonitoringMetricPrefix ++ "/connectivity_failures").toList

def logSelfMonitoringTooOldRecordsMetricType : Text :=
  (logSelfMonitoringMetricPrefix ++ "/too_old_records").toList

def logSelfMonitoringParsingErrorsMetricType : Text :=
  (logSelfMonitoringMetricPrefix ++ "/parsing_errors").toList

def logSelfMonitoringTooLongContentMetricType : Text :=
  (logSelfMonitoringMetricPrefix ++ "/too_long_content_size").toList

def logSelfMonitoringPublishTimeFallbackMetricType : Text :=
  (logSelfMonitoringMetricPrefix ++ "/publish_time_fallback").toList

def logSelfMonitoringProcessingTimeMetricType : Text :=
  (logSelfMonitoringMetricPrefix ++ "/processing_time").toList

def logSelfMonitoringSendingTimeSizeMetricType : Text :=
  (logSelfMonitoringMetricPrefix ++ "/sending_time").toList

def logSelfMonitoringPullingTimeSizeMetricType : Text :=
  (logSelfMonitoringMetricPrefix ++ "/pulling_time").toList

def logSelfMonitoringLogIngestPayloadSizeMetricType : Text :=
  (logSelfMonitoringMetricPrefix ++ "/log_ingest_payload_size").toList

def logSelfMonitoringRawLogIngestPayloadSizeMetricType : Text :=
  (logSelfMonitoringMetricPrefix ++ "/raw_log_ingest_payload_size").toList

def logSelfMonitoringSentLogsEntriesMetricType : Text :=
  (logSelfMonitoringMetricPrefix ++ "/sent_logs_entries").toList

def logLabels : List String :=
  ["dynatrace_tenant_url", "logs_subscription_id", "container_name", "worker_pid"]

def logSelfMonitoringAllRequestsMetricDescriptor : MetricDescriptor :=
  gaugeDescriptor logSelfMonitoringAllRequestsMetricType .int64
    "Dynatrace Log Integration all requests" logLabels

def logSelfMonitoringConnectivityMetricDescriptor : MetricDescriptor :=
  gaugeDescriptor logSelfMonitoringConnectivityMetricType .int64
    "Dynatrace Log Integration Dynatrace connectivity" (logLabels ++ ["connectivity_status"])

def logSelfMonitoringTooOldRecordsMetricDescriptor : MetricDescriptor :=
  gaugeDescriptor logSelfMonitoringTooOldRecordsMetricType .int64
    "Dynatrace Log Integration too old records" logLabels

def logSelfMonitoringParsingErrorsMetricDescriptor : MetricDescriptor :=
  gaugeDescriptor logSelfMonitoringParsingErrorsMetricType .int64
    "Dynatrace Log Integration parsing errors" logLabels

def logSelfMonitoringTooLongContentMetricDescriptor : MetricDescriptor :=
  gaugeDescriptor logSelfMonitoringTooLongContentMetricType .int64
    "Dynatrace Log Integration too long content" logLabels

def logSelfMonitoringPublishTimeFallbackMetricDescriptor : MetricDescriptor :=
  gaugeDescriptor logSelfMonitoringPublishTimeFallbackMetricType .int64
    "Dynatrace Log Integration publish time fallback" logLabels

def logSelfMonitoringProcessingTimeMetricDescriptor : MetricDescriptor :=
  gaugeDescriptor logSelfMonitoringProcessingTimeMetricType .double
    "Dynatrace Log Integration processing time" logLabels

def logSelfMonitoringSendingTimeSizeMetricDescriptor : MetricDescriptor :=
  gaugeDescriptor logSelfMonitoringSendingTimeSizeMetricType .double
    "Dynatrace Log Integration sending time" logLabels

def logSelfMonitoringPullingTimeSizeMetricDescriptor : MetricDescriptor :=
  gaugeDescriptor logSelfMonitoringPullingTimeSizeMetricType .double
    "Dynatrace Log Integration pulling time" logLabels

def logSelfMonitoringLogIngestPayloadSizeMetricDescriptor : MetricDescriptor :=
  gaugeDescriptor logSelfMonitoringLogIngestPayloadSizeMetricType .double
    "Dynatrace Log Integration log ingest payload size" logLabels

def logSelfMonitoringRawLogIngestPayloadSizeMetricDescriptor : MetricDescriptor :=
  gaugeDescriptor logSelfMonitoringRawLogIngestPayloadSizeMetricType .double
    "Dynatrace Log Integration raw (uncompressed) log ingest payload size" logLabels

def logSelfMonitoringSentLogsEntriesMetricDescriptor : MetricDescriptor :=
  gaugeDescriptor logSelfMonitoringSentLogsEntriesMetricType .int64
    "Dynatrace Log Integration number of sent logs entries" logLabels

def logSelfMonitoringMetricMap : List (Text × MetricDescriptor) :=
  [(logSelfMonitoringAllRequestsMetricType, logSelfMonitoringAllRequestsMetricDescriptor),
    (logSelfMonitoringConnectivityMetricType, logSelfMonitoringConnectivityMetricDescriptor),
    (logSelfMonitoringTooOldRecordsMetricType, logSelfMonitoringTooOldRecordsMetricDescriptor),
    (logSelfMonitoringParsingErrorsMetricType, logSelfMonitoringParsingErrorsMetricDescriptor),
    (logSelfMonitoringTooLongContentMetricType, logSelfMonitoringTooLongContentMetricDescriptor),
    (logSelfMonitoringPublishTimeFallbackMetricType,
      logSelfMonitoringPublishTimeFallbackMetricDescriptor),
    (logSelfMonitoringProcessingTimeMetricType, logSelfMonitoringProcessingTimeMetricDescriptor),
    (logSelfMonitoringSendingTimeSizeMetricType, logSelfMonitoringSendingTimeSizeMetricDescriptor),
    (logSelfMonitoringPullingTimeSizeMetricType, logSelfMonitoringPullingTimeSizeMetricDescriptor),
    (logSelfMonitoringLogIngestPayloadSizeMetricType,
      logSelfMonitoringLogIngestPayloadSizeMetricDescriptor),
    (logSelfMonitoringRawLogIngestPayloadSizeMetricType,
      logSelfMonitoringRawLogIngestPayloadSizeMetricDescriptor),
    (logSelfMonitoringSentLogsEntriesMetricType, logSelfMonitoringSentLogsEntriesMetricDescriptor)]

end Logs

inductive SfmKind where
  | metrics
  | logs
  deriving DecidableEq

def SfmKind.metricMap : SfmKind → List (Text × MetricDescriptor)
  | .metrics => selfMonitoringMetricMap
  | .logs => logSelfMonitoringMetricMap

def allMetrics : List (Text × MetricDescriptor) :=
  selfMonitoringMetricMap ++ logSelfMonitoringMetricMap

theorem mem_allMetrics {kind : SfmKind} {entry : Text × MetricDescriptor}
    (h : entry ∈ kind.metricMap) : entry ∈ allMetrics := by
  cases kind with
  | metrics => exact List.mem_append_left _ h
  | logs => exact List.mem_append_right _ h

theorem allMetrics_nodup : (allMetrics.map Prod.fst).Nodup := by decide +kernel

theorem type_of_mem_allMetrics {type : Text} {metricDescriptor : MetricDescriptor}
    (h : (type, metricDescriptor) ∈ allMetrics) : metricDescriptor.type = some type := by
  have hall : allMetrics.all (fun entry => entry.2.type = some entry.1) = true := by
    decide +kernel
  simpa using List.all_eq_true.mp hall _ h

theorem listed_of_mem_allMetrics {type : Text} {metricDescriptor : MetricDescriptor}
    (h : (type, metricDescriptor) ∈ allMetrics) :
    selfMonitoringMetricPrefix.toList.isPrefixOf type = true := by
  have hall : allMetrics.all
      (fun entry => selfMonitoringMetricPrefix.toList.isPrefixOf entry.1) = true := by
    decide +kernel
  exact List.all_eq_true.mp hall _ h

end GcpMonitor.SelfMonitoring
