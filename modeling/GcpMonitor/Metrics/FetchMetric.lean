import GcpMonitor.Library.ExceptList
import GcpMonitor.Metrics.Aggregation
import GcpMonitor.Metrics.CreateDimensions
import GcpMonitor.Metrics.Exclusion

namespace GcpMonitor.Metrics

open Python ExceptList

structure AutodiscoveryResourceLinking where
  possibleServiceLinking : List GCPService
  disabledServicesForResource : List GCPService

structure AutodiscoveryGCPService where
  service : GCPService
  metricsToResources : OrderedDict Text Text
  metricsToLinking : OrderedDict Text (Option AutodiscoveryResourceLinking)
  resourceDimensions : OrderedDict Text (List Dimension)

inductive MonitoredService where
  | extension (service : GCPService)
  | autodiscovery (service : AutodiscoveryGCPService)

def MonitoredService.base : MonitoredService → GCPService
  | .extension service => service
  | .autodiscovery service => service.service

namespace AutodiscoveryGCPService

variable (service : AutodiscoveryGCPService) (metric : Metric)

def linkedService : Except PyError (Option GCPService) :=
  match service.metricsToLinking.get metric.googleMetric with
  | none => .error .keyError
  | some none => .ok none
  | some (some linking) =>
    match linking.possibleServiceLinking with
    | [] => .error .indexError
    | linked :: _ => .ok (some linked)

def getDimensions : Except PyError (List Dimension) := do
  match ← service.linkedService metric with
  | some linked => return linked.dimensions
  | none =>
    match service.metricsToResources.get metric.googleMetric with
    | none => throw .keyError
    | some metricResource => return (service.resourceDimensions.get metricResource).getD []

def getName : Except PyError Text := do
  match ← service.linkedService metric with
  | some linked => return linked.name
  | none => return metric.googleMetric.takeWhile (fun c => c ≠ '.')

def firstLinked : Option GCPService :=
  (service.metricsToLinking.get metric.googleMetric).join.bind
    (fun linking => linking.possibleServiceLinking.head?)

end AutodiscoveryGCPService

structure MetricSource where
  serviceDimensions : List Dimension
  serviceName : Text
  effectiveSamplePeriod : Option ℤ

def overridingPeriod (metric : Metric) (linked : GCPService) : Option ℤ :=
  if 0 < linked.minSamplePeriodOverride ∧
      metric.samplePeriodSeconds < linked.minSamplePeriodOverride * second then
    some (linked.minSamplePeriodOverride * second)
  else none

def MonitoredService.metricSource (service : MonitoredService) (metric : Metric) :
    Except PyError MetricSource :=
  match service with
  | .extension service => return ⟨service.dimensions, service.name, none⟩
  | .autodiscovery service =>
    if metric.autodiscoveredMetric then do
      let serviceDimensions ← service.getDimensions metric
      let serviceName ← service.getName metric
      return ⟨serviceDimensions, serviceName,
        (service.firstLinked metric).bind (overridingPeriod metric)⟩
    else return ⟨service.service.dimensions, service.service.name, none⟩

/-- What `fetch_metric` gets from outside: the configuration, and the functions that hash an entity
id, that read the end of a point's interval, and that extract the value of a point. -/
structure Runtime (Point : Type) where
  floatText : FloatText
  limits : LengthLimits
  dtSecurityContextValue : Text
  createMmh3Hash : List Text → Text
  timestamp : Point → Except PyError ℤ
  extractValue : Point → Text → Metric → Except PyError (Option PyValue)

inductive Response (Point : Type) where
  | error (text : String)
  | noTimeSeries
  | page (timeSeries : List (TimeSeries Point)) (nextPageToken : Text)

def typedValueKey (valueType : Text) : Except PyError Text :=
  let valueType := valueType.upper
  if valueType = "INT64".toList then return "int64Value".toList
  else if valueType = "DOUBLE".toList then return "doubleValue".toList
  else if valueType = "BOOL".toList then return "boolValue".toList
  else if valueType = "DISTRIBUTION".toList then return "distributionValue".toList
  else throw (.exception ("Value type " ++ String.ofList valueType ++ " is not supported"))

inductive Lines where
  | listed (lines : List (IngestLine PyValue))
  | aggregated (groups : Aggregated)

def Lines.values : Lines → List (IngestLine PyValue)
  | .listed lines => lines
  | .aggregated groups => groups.values

variable {Point : Type} (R : Runtime Point)

def createEntityId (serviceName : Text) (serviceDimensions : List Dimension)
    (timeSeries : TimeSeries Point) : Except PyError Text :=
  match timeSeries.resourceLabels with
  | none => throw .keyError
  | some resourceLabels =>
    let parts := serviceDimensions.filterMap (fun dimension =>
      (resourceLabels.get dimension.keyForCreateEntityId).filter (fun value => value ≠ []))
    return R.createMmh3Hash (serviceName :: parts)

def convertPointToIngestLine (dimensions : List DimensionValue) (metric : Metric) (point : Point)
    (typedValueKey entityId : Text) : Except PyError (Option (IngestLine PyValue)) := do
  let timestamp ← R.timestamp point
  match R.extractValue point typedValueKey metric with
  | .ok (some value) => return some {
      entityId := entityId
      metricName := metric.dynatraceName
      metricType := metric.dynatraceMetricType
      value := value
      timestamp := timestamp
      dimensionValues := dimensions }
  | _ => return none

structure FetchPlan where
  metric : Metric
  source : MetricSource
  dtDimensionsMapping : DtDimensionsMap
  excludedSourceDimensions : List Text

def FetchPlan.dimensions (plan : FetchPlan) (timeSeries : TimeSeries Point) : List DimensionValue :=
  createDimensions R.limits R.dtSecurityContextValue plan.source.serviceName timeSeries
    plan.dtDimensionsMapping plan.metric plan.source.effectiveSamplePeriod
    plan.excludedSourceDimensions

def addLine (valueType : Text) (line : IngestLine PyValue) : Lines → Except PyError Lines
  | .listed lines => return .listed (lines ++ [line])
  | .aggregated groups =>
    return .aggregated (← addAggregatedLine R.floatText valueType groups line)

def addPoint (plan : FetchPlan) (dimensions : List DimensionValue) (typedValueKey entityId : Text)
    (lines : Lines) (point : Point) : Except PyError Lines := do
  match ← convertPointToIngestLine R dimensions plan.metric point typedValueKey entityId with
  | some line => addLine R plan.metric.valueType line lines
  | none => return lines

def addTimeSeries (plan : FetchPlan) (lines : Lines) (timeSeries : TimeSeries Point) :
    Except PyError Lines := do
  let typedValueKey ← typedValueKey timeSeries.valueType
  let dimensions := plan.dimensions R timeSeries
  let entityId ← createEntityId R plan.source.serviceName plan.source.serviceDimensions timeSeries
  timeSeries.points.foldlM (addPoint R plan dimensions typedValueKey entityId) lines

def addPages (plan : FetchPlan) : Lines → List (Response Point) → Except PyError Lines
  | _, [] => throw (.exception "Connection closed")
  | _, .error text :: _ => throw (.exception text)
  | lines, .noTimeSeries :: _ => return lines
  | lines, .page timeSeries nextPageToken :: rest => do
    let lines ← timeSeries.foldlM (addTimeSeries R plan) lines
    if nextPageToken ≠ [] then addPages plan lines rest else return lines

def addDimension (mapping : DtDimensionsMap) (dimension : Dimension) : DtDimensionsMap :=
  if dimension.keyForSendToDynatrace ≠ [] then
    mapping.addLabelMapping dimension.keyForFetchMetric dimension.keyForSendToDynatrace
  else mapping

def fetchPlan (metric : Metric) (source : MetricSource)
    (excludedMetricsAndDimensions : List (Option ExcludedMetric)) : FetchPlan :=
  let allDimensions := source.serviceDimensions ++ metric.dimensions
  let foundExcludedMetric := findExcludedMetric metric.googleMetric excludedMetricsAndDimensions
  let excluded (dimension : Dimension) :=
    shouldExcludeDimension metric.googleMetric dimension excludedMetricsAndDimensions
      foundExcludedMetric
  { metric := metric
    source := source
    dtDimensionsMapping :=
      (allDimensions.filter (fun dimension => !excluded dimension)).foldl addDimension .empty
    excludedSourceDimensions := (allDimensions.filter excluded).map Dimension.keyForFetchMetric }

def FetchPlan.aggregateLocally (plan : FetchPlan) : Bool :=
  plan.excludedSourceDimensions ≠ [] &&
    "cumulative".toList.isPrefixOf (plan.metric.googleMetricKind.map Char.toLower) &&
    ["int64".toList, "double".toList, "distribution".toList].contains
      (plan.metric.valueType.map Char.toLower)

def fetchMetric (service : MonitoredService) (metric : Metric)
    (excludedMetricsAndDimensions : List (Option ExcludedMetric))
    (responses : List (Response Point)) : Except PyError (List (IngestLine PyValue)) := do
  let source ← service.metricSource metric
  let plan := fetchPlan metric source excludedMetricsAndDimensions
  let start : Lines := if plan.aggregateLocally then .aggregated .empty else .listed []
  return (← addPages R plan start responses).values

def readTimeSeries : List (Response Point) → List (TimeSeries Point)
  | .page timeSeries nextPageToken :: rest =>
    timeSeries ++ if nextPageToken ≠ [] then readTimeSeries rest else []
  | _ => []

def timeSeriesLines (plan : FetchPlan) (timeSeries : TimeSeries Point) :
    List (IngestLine PyValue) :=
  match typedValueKey timeSeries.valueType,
      createEntityId R plan.source.serviceName plan.source.serviceDimensions timeSeries with
  | .ok typedValueKey, .ok entityId =>
    timeSeries.points.filterMap (fun point =>
      match convertPointToIngestLine R (plan.dimensions R timeSeries) plan.metric point
          typedValueKey entityId with
      | .ok line => line
      | .error _ => none)
  | _, _ => []

section

variable {R} {plan : FetchPlan}

theorem addPoints_eq_ok {dimensions : List DimensionValue} {typedValueKey entityId : Text}
    {points : List Point} {start lines : Lines}
    (h : points.foldlM (addPoint R plan dimensions typedValueKey entityId) start = .ok lines) :
    (points.filterMap (fun point =>
      match convertPointToIngestLine R dimensions plan.metric point typedValueKey entityId with
      | .ok line => line
      | .error _ => none)).foldlM (fun lines line => addLine R plan.metric.valueType line lines)
        start = .ok lines := by
  induction points generalizing start with
  | nil => exact h
  | cons point points ih =>
    rw [List.foldlM_cons] at h
    obtain ⟨next, hnext, hrest⟩ := bind_eq_ok_iff.mp h
    obtain ⟨converted, hconverted, hadd⟩ := bind_eq_ok_iff.mp hnext
    have htail := ih hrest
    rw [List.filterMap_cons, hconverted]
    cases converted with
    | none =>
      cases hadd
      exact htail
    | some line => exact bind_eq_ok_iff.mpr ⟨next, hadd, htail⟩

theorem addTimeSeries_eq_ok {timeSeries : TimeSeries Point} {start lines : Lines}
    (h : addTimeSeries R plan start timeSeries = .ok lines) :
    (timeSeriesLines R plan timeSeries).foldlM
      (fun lines line => addLine R plan.metric.valueType line lines) start = .ok lines := by
  obtain ⟨typedValueKey, hkey, h⟩ := bind_eq_ok_iff.mp h
  obtain ⟨entityId, hentity, h⟩ := bind_eq_ok_iff.mp h
  rw [timeSeriesLines, hkey, hentity]
  exact addPoints_eq_ok h

theorem foldlM_addTimeSeries_eq_ok {series : List (TimeSeries Point)} {start lines : Lines}
    (h : series.foldlM (addTimeSeries R plan) start = .ok lines) :
    (series.flatMap (timeSeriesLines R plan)).foldlM
      (fun lines line => addLine R plan.metric.valueType line lines) start = .ok lines := by
  induction series generalizing start with
  | nil => exact h
  | cons first rest ih =>
    rw [List.foldlM_cons] at h
    obtain ⟨next, hnext, hrest⟩ := bind_eq_ok_iff.mp h
    rw [List.flatMap_cons, List.foldlM_append]
    exact bind_eq_ok_iff.mpr ⟨next, addTimeSeries_eq_ok hnext, ih hrest⟩

theorem addPages_eq_ok {responses : List (Response Point)} {start lines : Lines}
    (h : addPages R plan start responses = .ok lines) :
    ((readTimeSeries responses).flatMap (timeSeriesLines R plan)).foldlM
      (fun lines line => addLine R plan.metric.valueType line lines) start = .ok lines := by
  induction responses generalizing start with
  | nil => contradiction
  | cons response rest ih =>
    cases response with
    | error text => contradiction
    | noTimeSeries => exact h
    | page timeSeries nextPageToken =>
      obtain ⟨next, hnext, h⟩ := bind_eq_ok_iff.mp h
      rw [readTimeSeries, List.flatMap_append, List.foldlM_append]
      refine bind_eq_ok_iff.mpr ⟨next, foldlM_addTimeSeries_eq_ok hnext, ?_⟩
      by_cases htoken : nextPageToken ≠ []
      · rw [if_pos htoken] at h ⊢
        exact ih h
      · rw [if_neg htoken] at h ⊢
        exact h

end

end GcpMonitor.Metrics
