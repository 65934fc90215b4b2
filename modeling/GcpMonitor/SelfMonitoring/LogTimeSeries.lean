import GcpMonitor.Library.Tally
import GcpMonitor.Logs.SelfMonitoring
import GcpMonitor.SelfMonitoring.TimeSeries

namespace GcpMonitor.SelfMonitoring

open Python Logs

structure LogsSfmContext where
  projectIdOwner : Text
  dynatraceUrl : Text
  logsSubscriptionId : Text
  functionName : Text
  containerName : Text
  zone : Text
  workerPid : Text
  timestamp : Text
  deriving DecidableEq

def connectivityName : DynatraceConnectivity → Text
  | .ok => "Ok".toList
  | .expiredToken => "ExpiredToken".toList
  | .wrongToken => "WrongToken".toList
  | .wrongURL => "WrongURL".toList
  | .invalidInput => "InvalidInput".toList
  | .tooManyRequests => "TooManyRequests".toList
  | .other => "Other".toList

namespace LogsSfmContext

variable (context : LogsSfmContext)

def createTimeSeries (metricType : Text) (metricLabels : List (Text × Text)) (points : List Point)
    (valueType : ValueType := .int64) : TimeSeries :=
  createTimeseriesDatapoint ⟨context.projectIdOwner, context.zone, context.functionName⟩ metricType
    metricLabels points valueType

def labels : List (Text × Text) :=
  [("dynatrace_tenant_url".toList, context.dynatraceUrl),
    ("logs_subscription_id".toList, context.logsSubscriptionId),
    ("container_name".toList, context.containerName), ("worker_pid".toList, context.workerPid)]

def interval (value : PointValue) : List Point := [⟨context.timestamp ++ ['Z'], value⟩]

def countSeries (metricType : Text) (count : ℕ) : List TimeSeries :=
  if count = 0 then []
  else [context.createTimeSeries metricType context.labels
    (context.interval (.int64Value (.int count)))]

def timeSeries (metricType : Text) (time : ℚ) : List TimeSeries :=
  [context.createTimeSeries metricType context.labels (context.interval (.doubleValue time))
    .double]

def sizeSeries (metricType : Text) (size : ℚ) : List TimeSeries :=
  if size = 0 then []
  else [context.createTimeSeries metricType context.labels (context.interval (.doubleValue size))
    .double]

def statusSeries (entry : DynatraceConnectivity × ℕ) : List TimeSeries :=
  if connectivityName entry.1 ≠ connectivityName .ok then
    [context.createTimeSeries logSelfMonitoringConnectivityMetricType
      (context.labels ++ [("connectivity_status".toList, connectivityName entry.1)])
      (context.interval (.int64Value (.int entry.2)))]
  else []

def connectivitySeries (dynatraceConnectivity : List DynatraceConnectivity) : List TimeSeries :=
  (OrderedDict.counter dynatraceConnectivity).entries.flatMap context.statusSeries

end LogsSfmContext

def createSelfMonitoringTimeSeries (sfm : LogSelfMonitoring) (context : LogsSfmContext) :
    List TimeSeries :=
  context.countSeries logSelfMonitoringAllRequestsMetricType sfm.allRequests ++
  context.countSeries logSelfMonitoringTooOldRecordsMetricType sfm.tooOldRecords ++
  context.countSeries logSelfMonitoringParsingErrorsMetricType sfm.parsingErrors ++
  context.countSeries logSelfMonitoringTooLongContentMetricType sfm.recordsWithTooLongContent ++
  context.countSeries logSelfMonitoringPublishTimeFallbackMetricType
    sfm.publishTimeFallbackRecords ++
  context.timeSeries logSelfMonitoringProcessingTimeMetricType sfm.processingTime ++
  context.timeSeries logSelfMonitoringSendingTimeSizeMetricType sfm.sendingTime ++
  context.timeSeries logSelfMonitoringPullingTimeSizeMetricType sfm.pullingTime ++
  context.connectivitySeries sfm.dynatraceConnectivity ++
  context.sizeSeries logSelfMonitoringLogIngestPayloadSizeMetricType sfm.logIngestPayloadSize ++
  context.sizeSeries logSelfMonitoringRawLogIngestPayloadSizeMetricType sfm.logIngestRawSize ++
  context.countSeries logSelfMonitoringSentLogsEntriesMetricType sfm.sentLogsEntries

inductive Quantity where
  | allRequests
  | tooOldRecords
  | parsingErrors
  | recordsWithTooLongContent
  | publishTimeFallbackRecords
  | processingTime
  | sendingTime
  | pullingTime
  | connectivityFailures (status : DynatraceConnectivity)
  | logIngestPayloadSize
  | logIngestRawSize
  | sentLogsEntries
  deriving DecidableEq

namespace Quantity

def read : Quantity → LogSelfMonitoring → ℚ
  | .allRequests, sfm => sfm.allRequests
  | .tooOldRecords, sfm => sfm.tooOldRecords
  | .parsingErrors, sfm => sfm.parsingErrors
  | .recordsWithTooLongContent, sfm => sfm.recordsWithTooLongContent
  | .publishTimeFallbackRecords, sfm => sfm.publishTimeFallbackRecords
  | .processingTime, sfm => sfm.processingTime
  | .sendingTime, sfm => sfm.sendingTime
  | .pullingTime, sfm => sfm.pullingTime
  | .connectivityFailures status, sfm => sfm.dynatraceConnectivity.count status
  | .logIngestPayloadSize, sfm => sfm.logIngestPayloadSize
  | .logIngestRawSize, sfm => sfm.logIngestRawSize
  | .sentLogsEntries, sfm => sfm.sentLogsEntries

def metricType : Quantity → Text
  | .allRequests => logSelfMonitoringAllRequestsMetricType
  | .tooOldRecords => logSelfMonitoringTooOldRecordsMetricType
  | .parsingErrors => logSelfMonitoringParsingErrorsMetricType
  | .recordsWithTooLongContent => logSelfMonitoringTooLongContentMetricType
  | .publishTimeFallbackRecords => logSelfMonitoringPublishTimeFallbackMetricType
  | .processingTime => logSelfMonitoringProcessingTimeMetricType
  | .sendingTime => logSelfMonitoringSendingTimeSizeMetricType
  | .pullingTime => logSelfMonitoringPullingTimeSizeMetricType
  | .connectivityFailures _ => logSelfMonitoringConnectivityMetricType
  | .logIngestPayloadSize => logSelfMonitoringLogIngestPayloadSizeMetricType
  | .logIngestRawSize => logSelfMonitoringRawLogIngestPayloadSizeMetricType
  | .sentLogsEntries => logSelfMonitoringSentLogsEntriesMetricType

/-- The series of the quantity: those of its metric, of one status where the metric has several. -/
def selects : Quantity → TimeSeries → Bool
  | .connectivityFailures status, series =>
    series.metricType = logSelfMonitoringConnectivityMetricType &&
      series.metricLabels.lookup "connectivity_status".toList = some (connectivityName status)
  | quantity, series => series.metricType = quantity.metricType

end Quantity

def PointValue.toRat : PointValue → ℚ
  | .int64Value n => n.toRat.getD 0
  | .doubleValue x => x

def TimeSeries.total (series : TimeSeries) : ℚ :=
  (series.points.map (fun point => point.value.toRat)).sum

def Quantity.totalOf (quantity : Quantity) (series : List TimeSeries) : ℚ :=
  ((series.filter quantity.selects).map TimeSeries.total).sum

namespace Quantity

variable (quantity : Quantity)

@[simp] theorem totalOf_nil : quantity.totalOf [] = 0 := rfl

@[simp] theorem totalOf_append (series series' : List TimeSeries) :
    quantity.totalOf (series ++ series') = quantity.totalOf series + quantity.totalOf series' := by
  simp [totalOf]

theorem totalOf_singleton (series : TimeSeries) :
    quantity.totalOf [series] = if quantity.selects series then series.total else 0 := by
  cases h : quantity.selects series <;> simp [totalOf, h]

theorem totalOf_flatten (batches : List (List TimeSeries)) :
    quantity.totalOf batches.flatten = (batches.map quantity.totalOf).sum := by
  induction batches with
  | nil => rfl
  | cons batch batches ih =>
    rw [List.flatten_cons, totalOf_append, ih, List.map_cons, List.sum_cons]

end Quantity

namespace Quantity

def metric : Quantity → Quantity
  | .connectivityFailures _ => .connectivityFailures .ok
  | quantity => quantity

def metrics : List Quantity :=
  [.allRequests, .connectivityFailures .ok, .tooOldRecords, .parsingErrors,
    .recordsWithTooLongContent, .publishTimeFallbackRecords, .processingTime, .sendingTime,
    .pullingTime, .logIngestPayloadSize, .logIngestRawSize, .sentLogsEntries]

theorem metric_mem (quantity : Quantity) : quantity.metric ∈ metrics := by
  cases quantity <;> simp [metric, metrics]

theorem metricType_metric (quantity : Quantity) :
    quantity.metric.metricType = quantity.metricType := by
  cases quantity <;> rfl

theorem metrics_nodup : (metrics.map metricType).Nodup :=
  allMetrics_nodup.sublist (List.sublist_append_right (selfMonitoringMetricMap.map Prod.fst) _)

theorem metricType_eq_iff {quantity other : Quantity} :
    quantity.metricType = other.metricType ↔ quantity.metric = other.metric := by
  rw [← metricType_metric quantity, ← metricType_metric other]
  constructor
  · intro h
    exact List.inj_on_of_nodup_map metrics_nodup (metric_mem quantity) (metric_mem other) h
  · intro h
    rw [h]

def plain : Quantity → Bool
  | .connectivityFailures _ => false
  | _ => true

theorem metric_of_plain {quantity : Quantity} (h : quantity.plain = true) :
    quantity.metric = quantity := by
  cases quantity with
  | connectivityFailures status => contradiction
  | _ => rfl

theorem selects_plain {quantity other : Quantity} (h : other.plain = true) {series : TimeSeries}
    (htype : series.metricType = other.metricType) :
    quantity.selects series = decide (quantity = other) := by
  have hiff : other.metricType = quantity.metricType ↔ other.metric = quantity.metric :=
    metricType_eq_iff
  rw [metric_of_plain h] at hiff
  cases quantity with
  | connectivityFailures status =>
    have hother : ∀ status, .connectivityFailures status ≠ other := by
      rintro status rfl
      contradiction
    have hne : series.metricType ≠ logSelfMonitoringConnectivityMetricType := by
      rw [htype]
      intro heq
      exact hother .ok (hiff.mp heq).symm
    rw [decide_eq_false (hother status)]
    simp [selects, hne]
  | _ =>
    rw [selects, htype, decide_eq_decide, hiff, eq_comm]
    · rfl
    · simp

end Quantity

section

variable (context : LogsSfmContext) (quantity other : Quantity)

theorem totalOf_countSeries (h : other.plain = true) (count : ℕ) :
    quantity.totalOf (context.countSeries other.metricType count) =
      if quantity = other then (count : ℚ) else 0 := by
  by_cases hzero : count = 0
  · simp [LogsSfmContext.countSeries, hzero]
  · rw [LogsSfmContext.countSeries, if_neg hzero, Quantity.totalOf_singleton,
      Quantity.selects_plain h rfl]
    simp [TimeSeries.total, LogsSfmContext.createTimeSeries, createTimeseriesDatapoint,
      LogsSfmContext.interval, PointValue.toRat, Number.toRat]

theorem totalOf_timeSeries (h : other.plain = true) (time : ℚ) :
    quantity.totalOf (context.timeSeries other.metricType time) =
      if quantity = other then time else 0 := by
  rw [LogsSfmContext.timeSeries, Quantity.totalOf_singleton, Quantity.selects_plain h rfl]
  simp [TimeSeries.total, LogsSfmContext.createTimeSeries, createTimeseriesDatapoint,
    LogsSfmContext.interval, PointValue.toRat]

theorem totalOf_sizeSeries (h : other.plain = true) (size : ℚ) :
    quantity.totalOf (context.sizeSeries other.metricType size) =
      if quantity = other then size else 0 := by
  by_cases hzero : size = 0
  · simp [LogsSfmContext.sizeSeries, hzero]
  · rw [LogsSfmContext.sizeSeries, if_neg hzero]
    exact totalOf_timeSeries context quantity other h size

theorem connectivityName_injective : Function.Injective connectivityName := by
  intro status status' h
  cases status <;> cases status' <;> first | rfl | exact absurd h (by decide)

theorem labels_lookup_status (status : DynatraceConnectivity) :
    (context.labels ++ [("connectivity_status".toList, connectivityName status)]).lookup
      "connectivity_status".toList = some (connectivityName status) := by
  rw [LogsSfmContext.labels]
  simp only [List.cons_append, List.nil_append, List.lookup_cons]
  rfl

theorem selects_statusSeries (status : DynatraceConnectivity) (points : List Point) :
    quantity.selects (context.createTimeSeries logSelfMonitoringConnectivityMetricType
      (context.labels ++ [("connectivity_status".toList, connectivityName status)]) points) =
        decide (quantity = .connectivityFailures status) := by
  cases quantity with
  | connectivityFailures status' =>
    simp only [Quantity.selects, LogsSfmContext.createTimeSeries, createTimeseriesDatapoint,
      labels_lookup_status, decide_true, Bool.true_and, Option.some.injEq,
      connectivityName_injective.eq_iff, Quantity.connectivityFailures.injEq, eq_comm]
  | _ =>
    rw [Quantity.selects, decide_eq_decide]
    · constructor
      · intro h
        have htype : (Quantity.connectivityFailures .ok).metricType = Quantity.metricType _ := h
        exact absurd (Quantity.metricType_eq_iff.mp htype) (by simp [Quantity.metric])
      · intro h
        cases h
    · simp

theorem totalOf_statusSeries (entry : DynatraceConnectivity × ℕ) :
    quantity.totalOf (context.statusSeries entry) =
      if quantity = .connectivityFailures entry.1 ∧ entry.1 ≠ .ok then (entry.2 : ℚ) else 0 := by
  by_cases hok : entry.1 = .ok
  · rw [LogsSfmContext.statusSeries, if_neg (by simp [hok]), if_neg (by simp [hok])]
    rfl
  · rw [LogsSfmContext.statusSeries, if_pos (connectivityName_injective.ne hok),
      Quantity.totalOf_singleton, selects_statusSeries]
    simp [TimeSeries.total, LogsSfmContext.createTimeSeries, createTimeseriesDatapoint,
      LogsSfmContext.interval, PointValue.toRat, Number.toRat, hok]

theorem totalOf_connectivitySeries (xs : List DynatraceConnectivity) :
    quantity.totalOf (context.connectivitySeries xs) =
      match quantity with
      | .connectivityFailures status => if status = .ok then 0 else (xs.count status : ℚ)
      | _ => 0 := by
  have htotal : quantity.totalOf (context.connectivitySeries xs) =
      ((OrderedDict.counter xs).entries.map (fun entry =>
        quantity.totalOf (context.statusSeries entry))).sum := by
    rw [LogsSfmContext.connectivitySeries, List.flatMap_def, Quantity.totalOf_flatten, List.map_map]
    rfl
  simp only [totalOf_statusSeries] at htotal
  rw [htotal]
  cases quantity with
  | connectivityFailures status =>
    by_cases hok : status = .ok
    · subst hok
      dsimp only
      rw [if_pos rfl]
      apply List.sum_eq_zero
      intro x hx
      obtain ⟨entry, -, rfl⟩ := List.mem_map.mp hx
      rw [if_neg]
      rintro ⟨heq, hne⟩
      exact hne (Quantity.connectivityFailures.inj heq).symm
    · have hsum := OrderedDict.sum_entries_ite (OrderedDict.counter xs) status
        (fun n => (n : ℚ))
      rw [OrderedDict.get_counter] at hsum
      have hentries : (OrderedDict.counter xs).entries.map (fun entry =>
          if Quantity.connectivityFailures status = .connectivityFailures entry.1 ∧ entry.1 ≠ .ok
            then (entry.2 : ℚ) else 0) =
          (OrderedDict.counter xs).entries.map (fun entry =>
            if entry.1 = status then (entry.2 : ℚ) else 0) := by
        apply List.map_congr_left
        intro entry _
        by_cases h : entry.1 = status
        · simp [h, hok]
        · rw [if_neg h, if_neg]
          rintro ⟨heq, -⟩
          exact h (Quantity.connectivityFailures.inj heq).symm
      dsimp only
      rw [hentries, hsum, if_neg hok]
      by_cases hmem : status ∈ xs
      · simp [hmem]
      · simp [hmem, List.count_eq_zero_of_not_mem hmem]
  | _ => simp

theorem totalOf_createSelfMonitoringTimeSeries (sfm : LogSelfMonitoring)
    (hquantity : quantity ≠ .connectivityFailures .ok) :
    quantity.totalOf (createSelfMonitoringTimeSeries sfm context) = quantity.read sfm := by
  have hcount := fun (other : Quantity) (h : other.plain = true) =>
    totalOf_countSeries context quantity other h
  have htime := fun (other : Quantity) (h : other.plain = true) =>
    totalOf_timeSeries context quantity other h
  have hsize := fun (other : Quantity) (h : other.plain = true) =>
    totalOf_sizeSeries context quantity other h
  have hconnectivity := totalOf_connectivitySeries context quantity sfm.dynatraceConnectivity
  simp only [createSelfMonitoringTimeSeries, Quantity.totalOf_append]
  rw [show quantity.totalOf (context.countSeries logSelfMonitoringAllRequestsMetricType
      sfm.allRequests) = _ from hcount .allRequests rfl _,
    show quantity.totalOf (context.countSeries logSelfMonitoringTooOldRecordsMetricType
      sfm.tooOldRecords) = _ from hcount .tooOldRecords rfl _,
    show quantity.totalOf (context.countSeries logSelfMonitoringParsingErrorsMetricType
      sfm.parsingErrors) = _ from hcount .parsingErrors rfl _,
    show quantity.totalOf (context.countSeries logSelfMonitoringTooLongContentMetricType
      sfm.recordsWithTooLongContent) = _ from hcount .recordsWithTooLongContent rfl _,
    show quantity.totalOf (context.countSeries logSelfMonitoringPublishTimeFallbackMetricType
      sfm.publishTimeFallbackRecords) = _ from hcount .publishTimeFallbackRecords rfl _,
    show quantity.totalOf (context.timeSeries logSelfMonitoringProcessingTimeMetricType
      sfm.processingTime) = _ from htime .processingTime rfl _,
    show quantity.totalOf (context.timeSeries logSelfMonitoringSendingTimeSizeMetricType
      sfm.sendingTime) = _ from htime .sendingTime rfl _,
    show quantity.totalOf (context.timeSeries logSelfMonitoringPullingTimeSizeMetricType
      sfm.pullingTime) = _ from htime .pullingTime rfl _,
    hconnectivity,
    show quantity.totalOf (context.sizeSeries logSelfMonitoringLogIngestPayloadSizeMetricType
      sfm.logIngestPayloadSize) = _ from hsize .logIngestPayloadSize rfl _,
    show quantity.totalOf (context.sizeSeries logSelfMonitoringRawLogIngestPayloadSizeMetricType
      sfm.logIngestRawSize) = _ from hsize .logIngestRawSize rfl _,
    show quantity.totalOf (context.countSeries logSelfMonitoringSentLogsEntriesMetricType
      sfm.sentLogsEntries) = _ from hcount .sentLogsEntries rfl _]
  cases quantity with
  | connectivityFailures status =>
    have hstatus : status ≠ .ok := by
      rintro rfl
      exact hquantity rfl
    simp [Quantity.read, hstatus]
  | _ => simp [Quantity.read]

theorem read_addTo (aggregated sfm : LogSelfMonitoring) :
    quantity.read (aggregated.addTo sfm) = quantity.read aggregated + quantity.read sfm := by
  cases quantity <;> simp [Quantity.read, LogSelfMonitoring.addTo, List.count_append]

theorem read_aggregate (aggregated : LogSelfMonitoring) (sfms : List LogSelfMonitoring) :
    quantity.read (aggregateSelfMonitoringMetrics aggregated sfms) =
      quantity.read aggregated + (sfms.map quantity.read).sum := by
  induction sfms generalizing aggregated with
  | nil => simp [aggregateSelfMonitoringMetrics]
  | cons sfm sfms ih =>
    have hrest := ih (aggregated.addTo sfm)
    rw [read_addTo, add_assoc] at hrest
    rw [List.map_cons, List.sum_cons]
    exact hrest

theorem read_empty : quantity.read {} = 0 := by
  cases quantity <;> simp [Quantity.read]

end

section

variable (context : LogsSfmContext)

theorem createTimeSeries_conforms (metricType : Text) {value : PointValue} {valueType : ValueType}
    (hfits : value.fits valueType = true) (displayName : String) :
    (context.createTimeSeries metricType context.labels (context.interval value)
      valueType).Conforms (gaugeDescriptor metricType valueType displayName logLabels) where
  type := rfl
  valueType := rfl
  labels := rfl
  values := by
    intro point hpoint
    rw [List.mem_singleton.mp hpoint]
    exact hfits

theorem statusSeries_conforms (entry : DynatraceConnectivity × ℕ) :
    ∀ series ∈ context.statusSeries entry,
      series.metricType = logSelfMonitoringConnectivityMetricType ∧
        series.Conforms logSelfMonitoringConnectivityMetricDescriptor := by
  intro series hseries
  rw [LogsSfmContext.statusSeries] at hseries
  split_ifs at hseries
  · rw [List.mem_singleton.mp hseries]
    refine ⟨rfl, rfl, rfl, rfl, ?_⟩
    intro point hpoint
    rw [List.mem_singleton.mp hpoint]
    rfl
  · exact absurd hseries List.not_mem_nil

theorem createSelfMonitoringTimeSeries_conforms (sfm : LogSelfMonitoring) :
    ∀ series ∈ createSelfMonitoringTimeSeries sfm context, ∃ metricDescriptor,
      (series.metricType, metricDescriptor) ∈ logSelfMonitoringMetricMap ∧
        series.Conforms metricDescriptor := by
  have hcount : ∀ metricType count displayName,
      (metricType, gaugeDescriptor metricType .int64 displayName logLabels) ∈
        logSelfMonitoringMetricMap →
      ∀ series ∈ context.countSeries metricType count, ∃ metricDescriptor,
        (series.metricType, metricDescriptor) ∈ logSelfMonitoringMetricMap ∧
          series.Conforms metricDescriptor := by
    intro metricType count displayName hmem series hseries
    rw [LogsSfmContext.countSeries] at hseries
    split_ifs at hseries
    · exact absurd hseries List.not_mem_nil
    · rw [List.mem_singleton.mp hseries]
      exact ⟨_, hmem, createTimeSeries_conforms context metricType rfl displayName⟩
  have hdouble : ∀ metricType x displayName,
      (metricType, gaugeDescriptor metricType .double displayName logLabels) ∈
        logSelfMonitoringMetricMap →
      ∀ series ∈ context.timeSeries metricType x, ∃ metricDescriptor,
        (series.metricType, metricDescriptor) ∈ logSelfMonitoringMetricMap ∧
          series.Conforms metricDescriptor := by
    intro metricType x displayName hmem series hseries
    rw [List.mem_singleton.mp hseries]
    exact ⟨_, hmem, createTimeSeries_conforms context metricType rfl displayName⟩
  have hsize : ∀ metricType x, ∀ series ∈ context.sizeSeries metricType x,
      series ∈ context.timeSeries metricType x := by
    intro metricType x series hseries
    rw [LogsSfmContext.sizeSeries] at hseries
    split_ifs at hseries
    · exact absurd hseries List.not_mem_nil
    · exact hseries
  intro series hseries
  simp only [createSelfMonitoringTimeSeries, List.mem_append, or_assoc] at hseries
  rcases hseries with h | h | h | h | h | h | h | h | h | h | h | h
  · exact hcount _ _ _ (List.mem_of_getElem? (i := 0) rfl) series h
  · exact hcount _ _ _ (List.mem_of_getElem? (i := 2) rfl) series h
  · exact hcount _ _ _ (List.mem_of_getElem? (i := 3) rfl) series h
  · exact hcount _ _ _ (List.mem_of_getElem? (i := 4) rfl) series h
  · exact hcount _ _ _ (List.mem_of_getElem? (i := 5) rfl) series h
  · exact hdouble _ _ _ (List.mem_of_getElem? (i := 6) rfl) series h
  · exact hdouble _ _ _ (List.mem_of_getElem? (i := 7) rfl) series h
  · exact hdouble _ _ _ (List.mem_of_getElem? (i := 8) rfl) series h
  · obtain ⟨entry, -, hentry⟩ := List.mem_flatMap.mp h
    obtain ⟨htype, hconforms⟩ := statusSeries_conforms context entry series hentry
    rw [htype]
    exact ⟨_, List.mem_of_getElem? (i := 1) rfl, hconforms⟩
  · exact hdouble _ _ _ (List.mem_of_getElem? (i := 9) rfl) series (hsize _ _ series h)
  · exact hdouble _ _ _ (List.mem_of_getElem? (i := 10) rfl) series (hsize _ _ series h)
  · exact hcount _ _ _ (List.mem_of_getElem? (i := 11) rfl) series h

end

def tenantContext : LogsSfmContext where
  projectIdOwner := "owner".toList
  dynatraceUrl := "https://tenant".toList
  logsSubscriptionId := "logs".toList
  functionName := "Local".toList
  containerName := "container".toList
  zone := "us-east1".toList
  workerPid := "1".toList
  timestamp := "2024-01-01T00:00:00".toList

theorem createSelfMonitoringTimeSeries_conforms_tooOld :
    ∃ series ∈ createSelfMonitoringTimeSeries { tooOldRecords := 2 } tenantContext,
      series.points = tenantContext.interval (.int64Value (.int 2)) ∧
      ∃ metricDescriptor, (series.metricType, metricDescriptor) ∈ logSelfMonitoringMetricMap ∧
        series.Conforms metricDescriptor := by
  refine ⟨_, List.mem_cons_self, rfl, ?_⟩
  apply createSelfMonitoringTimeSeries_conforms tenantContext { tooOldRecords := 2 }
  exact List.mem_cons_self

end GcpMonitor.SelfMonitoring
