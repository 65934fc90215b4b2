import GcpMonitor.Metrics.ExcludedDimensions
import GcpMonitor.Metrics.FetchIngestLines

namespace GcpMonitor.Metrics

open Python

abbrev QueryParams := List (Text × Text)

def pageTokenKey : Text := "pageToken".toList

def isGaugeNumber (metricKind valueType : Text) : Bool :=
  "gauge".toList.isPrefixOf (metricKind.map Char.toLower) &&
    ["int64".toList, "double".toList].contains (valueType.map Char.toLower)

def setAligner (metricKind valueType : Text) : Text :=
  if valueType.map Char.toLower = "bool".toList then "ALIGN_COUNT_TRUE".toList
  else if "cumulative".toList.isPrefixOf (metricKind.map Char.toLower) then "ALIGN_DELTA".toList
  else if isGaugeNumber metricKind valueType then "ALIGN_MEAN".toList
  else "ALIGN_SUM".toList

def setReducer (metricKind valueType : Text) : Text :=
  if "cumulative".toList.isPrefixOf (metricKind.map Char.toLower) then "REDUCE_NONE".toList
  else if isGaugeNumber metricKind valueType then "REDUCE_MEAN".toList
  else "REDUCE_SUM".toList

structure FetchInterval where
  startTime : Text
  endTime : Text
  alignmentPeriod : Text

def MonitoredService.monitoringFilter (service : MonitoredService) (metric : Metric) : Text :=
  match service with
  | .extension service => service.monitoringFilter
  | .autodiscovery service =>
    if metric.autodiscoveredMetric then
      ((service.firstLinked metric).map GCPService.monitoringFilter).getD []
    else service.service.monitoringFilter

def groupByFields (source : MetricSource) (metric : Metric)
    (excludedMetricsAndDimensions : List (Option ExcludedMetric)) : List Text :=
  let foundExcludedMetric := findExcludedMetric metric.googleMetric excludedMetricsAndDimensions
  ((source.serviceDimensions ++ metric.dimensions).filter (fun dimension =>
    !shouldExcludeDimension metric.googleMetric dimension excludedMetricsAndDimensions
      foundExcludedMetric)).map Dimension.keyForFetchMetric

def groupingFields (grouping : Text) : List Text :=
  ((grouping.splitOn ',').takeWhile (fun label => label ≠ noGroupingCategory)).map
    (fun label => "metadata.user_labels.".toList ++ label)

def fetchParams (service : MonitoredService) (metric : Metric) (source : MetricSource)
    (excludedMetricsAndDimensions : List (Option ExcludedMetric)) (grouping : Text)
    (interval : FetchInterval) : QueryParams :=
  [("filter".toList, Text.strip ("metric.type = \"".toList ++ metric.googleMetric ++
      "\" ".toList ++ service.monitoringFilter metric)),
    ("interval.startTime".toList, interval.startTime),
    ("interval.endTime".toList, interval.endTime),
    ("aggregation.alignmentPeriod".toList, interval.alignmentPeriod),
    ("aggregation.perSeriesAligner".toList, setAligner metric.googleMetricKind metric.valueType),
    ("aggregation.crossSeriesReducer".toList,
      setReducer metric.googleMetricKind metric.valueType)] ++
    (groupByFields source metric excludedMetricsAndDimensions ++ groupingFields grouping).map
      (fun field => ("aggregation.groupByFields".toList, field))

def updateParams (nextPageToken : Text) (params : QueryParams) : QueryParams :=
  match params.findIdx? (fun param => param.1 = pageTokenKey) with
  | some replaceIndex => params.set replaceIndex (pageTokenKey, nextPageToken)
  | none => params ++ [(pageTokenKey, nextPageToken)]

def IsPageToken (param : Text × Text) : Prop := param.1 = pageTokenKey

instance (param : Text × Text) : Decidable (IsPageToken param) :=
  inferInstanceAs (Decidable (param.1 = pageTokenKey))

def withToken (params : QueryParams) (token : Option Text) : QueryParams :=
  params ++ token.toList.map (fun token => (pageTokenKey, token))

theorem updateParams_withToken {params : QueryParams} (h : ∀ param ∈ params, ¬ IsPageToken param)
    (previous : Option Text) (token : Text) :
    updateParams token (withToken params previous) = withToken params (some token) := by
  have hnone : params.findIdx? (fun param => param.1 = pageTokenKey) = none := by
    rw [List.findIdx?_eq_none_iff]
    intro param hparam
    exact decide_eq_false (h param hparam)
  unfold updateParams withToken
  cases previous with
  | none =>
    rw [Option.toList_none, List.map_nil, List.append_nil, hnone]
    rfl
  | some previous =>
    have hfound : (params ++ [(pageTokenKey, previous)]).findIdx?
        (fun param => param.1 = pageTokenKey) = some params.length := by
      rw [List.findIdx?_append, hnone]
      simp
    rw [Option.toList_some, List.map_singleton, hfound]
    simp

theorem not_isPageToken_fetchParams (service : MonitoredService) (metric : Metric)
    (source : MetricSource) (entries : List (Option ExcludedMetric)) (grouping : Text)
    (interval : FetchInterval) :
    ∀ param ∈ fetchParams service metric source entries grouping interval,
      ¬ IsPageToken param := by
  intro param hparam
  rcases List.mem_append.mp hparam with hparam | hparam
  · have hkeys : ∀ key ∈ ["filter", "interval.startTime", "interval.endTime",
        "aggregation.alignmentPeriod", "aggregation.perSeriesAligner",
        "aggregation.crossSeriesReducer"], key.toList ≠ pageTokenKey := by
      decide +kernel
    simp only [List.mem_cons, List.not_mem_nil, or_false] at hparam
    rcases hparam with rfl | rfl | rfl | rfl | rfl | rfl
    all_goals exact hkeys _ (by simp)
  · obtain ⟨field, -, rfl⟩ := List.mem_map.mp hparam
    have hkey : "aggregation.groupByFields".toList ≠ pageTokenKey := by
      decide +kernel
    exact hkey

end GcpMonitor.Metrics
