import GcpMonitor.Metrics.DistinctSeries
import GcpMonitor.Metrics.FetchMetric

namespace GcpMonitor.Metrics

open Python ExceptList

variable {Point : Type} (R : Runtime Point)

/-- A line that a time series became is in a returned line when the two are the same or were
aggregated into one. -/
def FetchPlan.ComesFrom (plan : FetchPlan) (line source : IngestLine PyValue) : Prop :=
  if plan.aggregateLocally then groupOf line = groupOf source else line = source

def TimeSeries.without (timeSeries : TimeSeries Point) (names : List Text) :
    TimeSeries Point where
  metricLabels := timeSeries.metricLabels.dropKeys (fun label => names.contains label)
  resourceLabels := timeSeries.resourceLabels.map
    (fun labels => labels.dropKeys (fun label => names.contains label))
  systemLabels := timeSeries.systemLabels.dropKeys (fun label => names.contains label)
  userLabels := timeSeries.userLabels.dropKeys (fun label => names.contains label)
  valueType := timeSeries.valueType
  points := timeSeries.points

/-- No line has a dimension that a label with one of the names becomes when nothing is excluded,
beyond those it would have if the series had come without these labels. -/
def CarriesNone (plan : FetchPlan) (names : List Text) (responses : List (Response Point))
    (lines : List (IngestLine PyValue)) : Prop :=
  ∀ line ∈ lines, ∀ timeSeries ∈ readTimeSeries responses,
    ∀ source ∈ timeSeriesLines R plan timeSeries, plan.ComesFrom line source →
      ∀ labelSource, ∀ label ∈ timeSeries.labels labelSource, label.1 ∈ names →
        ∀ dimension ∈ labelDimensions R.limits plan.dtDimensionsMapping [] labelSource label,
          line.dimensionValues.count dimension ≤
            (plan.dimensions R (timeSeries.without names)).count dimension

/-- Every label with one of the names is declared as a dimension under its full name, and the name
is found again after the last dot of the full one. -/
def EachDeclared (plan : FetchPlan) (names : List Text) (responses : List (Response Point)) :
    Prop :=
  ∀ timeSeries ∈ readTimeSeries responses, timeSeriesLines R plan timeSeries ≠ [] →
    ∀ labelSource : LabelSource, ∀ label ∈ timeSeries.labels labelSource, label.1 ∈ names →
      (∃ dimension ∈ plan.source.serviceDimensions ++ plan.metric.dimensions,
        dimension.keyForFetchMetric = labelSource.sourceDimension label.1) ∧
      lastSegment label.1 ∈ names

theorem takeWhile_append_stop {α : Type} {p : α → Bool} {x : α} (hx : p x = false) (s t : List α) :
    (s ++ x :: t).takeWhile p = s.takeWhile p := by
  induction s with
  | nil => simp [hx]
  | cons y s ih =>
    rw [List.cons_append, List.takeWhile_cons, List.takeWhile_cons, ih]

theorem lastSegment_append_dot (s t : Text) : lastSegment (s ++ '.' :: t) = lastSegment t := by
  rw [lastSegment, lastSegment, List.rtakeWhile, List.rtakeWhile, List.reverse_append,
    List.reverse_cons, List.append_assoc, List.singleton_append,
    takeWhile_append_stop (by decide)]

theorem mem_excludedSourceDimensions_iff {metric : Metric} {source : MetricSource}
    {entries : List (Option ExcludedMetric)} {found : ExcludedMetric}
    (h : findExcludedMetric metric.googleMetric entries = some found) {labelSource : LabelSource}
    {label : Text} :
    labelSource.sourceDimension label ∈ (fetchPlan metric source entries).excludedSourceDimensions ↔
      (∃ dimension ∈ source.serviceDimensions ++ metric.dimensions,
        dimension.keyForFetchMetric = labelSource.sourceDimension label) ∧
      lastSegment label ∈ found.dimensionNames := by
  have hsegment : lastSegment (labelSource.sourceDimension label) = lastSegment label :=
    lastSegment_append_dot _ _
  simp only [fetchPlan, List.mem_map, List.mem_filter, shouldExcludeDimension_eq h,
    List.contains_iff_mem]
  constructor
  · rintro ⟨dimension, ⟨hmem, hexcluded⟩, hkey⟩
    rw [hkey, hsegment] at hexcluded
    exact ⟨⟨dimension, hmem, hkey⟩, hexcluded⟩
  · rintro ⟨⟨dimension, hmem, hkey⟩, hexcluded⟩
    refine ⟨dimension, ⟨hmem, ?_⟩, hkey⟩
    rw [hkey, hsegment]
    exact hexcluded

theorem named_fetchPlan (metric : Metric) (source : MetricSource)
    (entries : List (Option ExcludedMetric)) :
    (fetchPlan metric source entries).dtDimensionsMapping.Named := by
  have hfold : ∀ (dimensions : List Dimension) (mapping : DtDimensionsMap), mapping.Named →
      (dimensions.foldl addDimension mapping).Named := by
    intro dimensions
    induction dimensions with
    | nil =>
      intro mapping h
      exact h
    | cons dimension rest ih =>
      intro mapping h
      apply ih
      rw [addDimension]
      split_ifs
      · exact named_addLabelMapping h _ _
      · exact h
  exact hfold _ _ named_empty

section

variable {R} {plan : FetchPlan}

theorem foldlM_addLine_listed (valueType : Text) (lines acc : List (IngestLine PyValue)) :
    lines.foldlM (fun lines line => addLine R valueType line lines) (.listed acc) =
      .ok (.listed (acc ++ lines)) := by
  induction lines generalizing acc with
  | nil =>
    rw [List.append_nil]
    rfl
  | cons line lines ih =>
    rw [List.append_cons]
    exact ih _

theorem foldlM_addLine_aggregated {valueType : Text} {lines : List (IngestLine PyValue)}
    {start : Aggregated} {result : Lines}
    (h : lines.foldlM (fun lines line => addLine R valueType line lines) (.aggregated start) =
      .ok result) :
    ∃ aggregated, result = .aggregated aggregated ∧
      lines.foldlM (addAggregatedLine R.floatText valueType) start = .ok aggregated := by
  induction lines generalizing start with
  | nil =>
    cases h
    exact ⟨start, rfl, rfl⟩
  | cons line lines ih =>
    rw [List.foldlM_cons] at h
    obtain ⟨next, hnext, hrest⟩ := bind_eq_ok_iff.mp h
    obtain ⟨groups, hgroups, hnext⟩ := bind_eq_ok_iff.mp hnext
    cases hnext
    obtain ⟨aggregated, hresult, hlines⟩ := ih hrest
    exact ⟨aggregated, hresult, bind_eq_ok_iff.mpr ⟨groups, hgroups, hlines⟩⟩

theorem exists_comesFrom {responses : List (Response Point)} {lines : Lines}
    (h : addPages R plan (if plan.aggregateLocally then .aggregated .empty else .listed [])
      responses = .ok lines) {timeSeries : TimeSeries Point}
    (hseries : timeSeries ∈ readTimeSeries responses) {source : IngestLine PyValue}
    (hsource : source ∈ timeSeriesLines R plan timeSeries) :
    ∃ line ∈ lines.values, plan.ComesFrom line source := by
  have hfold := addPages_eq_ok h
  have hmem : source ∈ (readTimeSeries responses).flatMap (timeSeriesLines R plan) :=
    List.mem_flatMap.mpr ⟨timeSeries, hseries, hsource⟩
  by_cases haggregate : plan.aggregateLocally = true
  · rw [if_pos haggregate] at hfold
    obtain ⟨aggregated, rfl, hlines⟩ := foldlM_addLine_aggregated hfold
    obtain ⟨stored, hstored, hgroup⟩ := exists_group_of_foldlM R.floatText hlines source hmem
    refine ⟨stored, hstored, ?_⟩
    rw [FetchPlan.ComesFrom, if_pos haggregate]
    exact hgroup
  · rw [if_neg haggregate, foldlM_addLine_listed] at hfold
    cases hfold
    refine ⟨source, hmem, ?_⟩
    rw [FetchPlan.ComesFrom, if_neg haggregate]

theorem dimensionValues_of_mem_timeSeriesLines {timeSeries : TimeSeries Point}
    {source : IngestLine PyValue} (h : source ∈ timeSeriesLines R plan timeSeries) :
    source.dimensionValues = plan.dimensions R timeSeries := by
  rw [timeSeriesLines] at h
  split at h
  · obtain ⟨point, -, hpoint⟩ := List.mem_filterMap.mp h
    split at hpoint
    · next line hconvert =>
      obtain ⟨timestamp, -, hconvert⟩ := bind_eq_ok_iff.mp hconvert
      split at hconvert
      · cases hconvert
        cases hpoint
        rfl
      · cases hconvert
        contradiction
    · contradiction
  · contradiction

theorem FetchPlan.ComesFrom.dimensionValues_perm {line source : IngestLine PyValue}
    (h : plan.ComesFrom line source) : line.dimensionValues.Perm source.dimensionValues := by
  rw [FetchPlan.ComesFrom] at h
  split_ifs at h
  · simp only [groupOf, Prod.mk.injEq, Multiset.coe_eq_coe] at h
    exact h.2.2.2.2
  · rw [h]

theorem labels_without (timeSeries : TimeSeries Point) (names : List Text)
    (labelSource : LabelSource) :
    (timeSeries.without names).labels labelSource =
      (timeSeries.labels labelSource).filter (fun label => !names.contains label.1) := by
  cases labelSource with
  | metric => rfl
  | resource =>
    simp only [TimeSeries.labels, TimeSeries.without]
    cases timeSeries.resourceLabels <;> rfl
  | system => rfl
  | user => rfl

variable (R plan) in
def namedDimensions (names : List Text) (timeSeries : TimeSeries Point) : List DimensionValue :=
  labelSources.flatMap (fun labelSource =>
    ((timeSeries.labels labelSource).filter (fun label => names.contains label.1)).flatMap
      (labelDimensions R.limits plan.dtDimensionsMapping plan.excludedSourceDimensions labelSource))

theorem count_dimensions (names : List Text) (timeSeries : TimeSeries Point)
    (dimension : DimensionValue) :
    (plan.dimensions R timeSeries).count dimension =
      (namedDimensions R plan names timeSeries).count dimension +
        (plan.dimensions R (timeSeries.without names)).count dimension := by
  have hlabels : ∀ labelSource, ((timeSeries.labels labelSource).flatMap
      (labelDimensions R.limits plan.dtDimensionsMapping plan.excludedSourceDimensions
        labelSource)).Perm
      (((timeSeries.labels labelSource).filter (fun label => names.contains label.1)).flatMap
        (labelDimensions R.limits plan.dtDimensionsMapping plan.excludedSourceDimensions
          labelSource) ++
        ((timeSeries.without names).labels labelSource).flatMap
          (labelDimensions R.limits plan.dtDimensionsMapping plan.excludedSourceDimensions
            labelSource)) := by
    intro labelSource
    rw [labels_without, ← List.flatMap_append]
    exact (List.filter_append_perm _ _).symm.flatMap_right _
  have hall := (List.Perm.flatMap_left labelSources
    (fun labelSource _ => hlabels labelSource)).trans
      (List.flatMap_append_perm labelSources _ _).symm
  rw [FetchPlan.dimensions, FetchPlan.dimensions, createDimensions_eq, createDimensions_eq,
    List.count_append, List.count_append, hall.count_eq, List.count_append, namedDimensions]
  omega

theorem labelDimensions_of_not_excluded {mapping : DtDimensionsMap} {excluded : List Text}
    {limits : LengthLimits} {labelSource : LabelSource} {label : Text × Text}
    (h : labelSource.sourceDimension label.1 ∉ excluded) :
    labelDimensions limits mapping excluded labelSource label =
      labelDimensions limits mapping [] labelSource label := by
  rw [labelDimensions_eq, labelDimensions_eq, if_neg h, if_neg List.not_mem_nil]

theorem mem_namedDimensions {names : List Text} {timeSeries : TimeSeries Point}
    {labelSource : LabelSource} {label : Text × Text}
    (hlabel : label ∈ timeSeries.labels labelSource) (hname : label.1 ∈ names)
    {dimension : DimensionValue}
    (h : dimension ∈ labelDimensions R.limits plan.dtDimensionsMapping
      plan.excludedSourceDimensions labelSource label) :
    dimension ∈ namedDimensions R plan names timeSeries := by
  apply List.mem_flatMap.mpr
  refine ⟨labelSource, by cases labelSource <;> decide, List.mem_flatMap.mpr ⟨label, ?_, h⟩⟩
  exact List.mem_filter.mpr ⟨hlabel, List.contains_iff_mem.mpr hname⟩

theorem namedDimensions_eq_nil {names : List Text} {timeSeries : TimeSeries Point}
    (hnamed : plan.dtDimensionsMapping.Named)
    (h : ∀ labelSource : LabelSource, ∀ label ∈ timeSeries.labels labelSource, label.1 ∈ names →
      labelSource.sourceDimension label.1 ∈ plan.excludedSourceDimensions) :
    namedDimensions R plan names timeSeries = [] := by
  apply List.flatMap_eq_nil_iff.mpr
  intro labelSource _
  apply List.flatMap_eq_nil_iff.mpr
  intro label hlabel
  obtain ⟨hlabel, hname⟩ := List.mem_filter.mp hlabel
  exact (labelDimensions_eq_nil_iff hnamed).mpr
    (h labelSource label hlabel (List.contains_iff_mem.mp hname))

end

theorem fetchMetric_eq_ok {R : Runtime Point} {service : MonitoredService} {metric : Metric}
    {entries : List (Option ExcludedMetric)} {responses : List (Response Point)}
    {lines : List (IngestLine PyValue)} {source : MetricSource}
    (hsource : service.metricSource metric = .ok source)
    (h : fetchMetric R service metric entries responses = .ok lines) :
    ∃ result : Lines, addPages R (fetchPlan metric source entries)
        (if (fetchPlan metric source entries).aggregateLocally then .aggregated .empty
          else .listed []) responses = .ok result ∧ result.values = lines := by
  rw [fetchMetric, hsource] at h
  obtain ⟨_, hpure, h⟩ := bind_eq_ok_iff.mp h
  cases hpure
  obtain ⟨result, hresult, h⟩ := bind_eq_ok_iff.mp h
  cases h
  exact ⟨result, hresult, rfl⟩

theorem eachDeclared_of_carriesNone {R : Runtime Point} {service : MonitoredService}
    {metric : Metric} {entries : List (Option ExcludedMetric)} {found : ExcludedMetric}
    {responses : List (Response Point)} {lines : List (IngestLine PyValue)} {source : MetricSource}
    (hsource : service.metricSource metric = .ok source)
    (hfound : findExcludedMetric metric.googleMetric entries = some found)
    (hfetch : fetchMetric R service metric entries responses = .ok lines)
    (h : CarriesNone R (fetchPlan metric source entries) found.dimensionNames responses
      lines) :
    EachDeclared R (fetchPlan metric source entries) found.dimensionNames responses := by
  obtain ⟨result, hresult, rfl⟩ := fetchMetric_eq_ok hsource hfetch
  intro timeSeries hseries hne labelSource label hlabel hname
  apply (mem_excludedSourceDimensions_iff hfound).mp
  by_contra hexcluded
  have hdimensions : labelDimensions R.limits (fetchPlan metric source entries).dtDimensionsMapping
      (fetchPlan metric source entries).excludedSourceDimensions labelSource label ≠ [] :=
    mt (labelDimensions_eq_nil_iff (named_fetchPlan metric source entries)).mp hexcluded
  obtain ⟨dimension, hdimension⟩ := List.exists_mem_of_ne_nil _ hdimensions
  obtain ⟨produced, hproduced⟩ := List.exists_mem_of_ne_nil _ hne
  obtain ⟨line, hline, hcomes⟩ := exists_comesFrom hresult hseries hproduced
  have hcount := h line hline timeSeries hseries produced hproduced hcomes labelSource label hlabel
    hname dimension (labelDimensions_of_not_excluded hexcluded ▸ hdimension)
  rw [hcomes.dimensionValues_perm.count_eq, dimensionValues_of_mem_timeSeriesLines hproduced,
    count_dimensions found.dimensionNames] at hcount
  have hpos := List.count_pos_iff.mpr (mem_namedDimensions hlabel hname hdimension)
  omega

theorem carriesNone_iff_eachDeclared {R : Runtime Point} {service : MonitoredService}
    {metric : Metric} {entries : List (Option ExcludedMetric)} {found : ExcludedMetric}
    {responses : List (Response Point)} {lines : List (IngestLine PyValue)} {source : MetricSource}
    (hsource : service.metricSource metric = .ok source)
    (hfound : findExcludedMetric metric.googleMetric entries = some found)
    (hfetch : fetchMetric R service metric entries responses = .ok lines) :
    CarriesNone R (fetchPlan metric source entries) found.dimensionNames responses lines ↔
      EachDeclared R (fetchPlan metric source entries) found.dimensionNames responses := by
  constructor
  · exact eachDeclared_of_carriesNone hsource hfound hfetch
  · intro h line _ timeSeries hseries produced hproduced hcomes labelSource _ _ _ dimension _
    have hnil : namedDimensions R (fetchPlan metric source entries) found.dimensionNames
        timeSeries = [] := by
      apply namedDimensions_eq_nil (named_fetchPlan metric source entries)
      intro labelSource label hlabel hname
      exact (mem_excludedSourceDimensions_iff hfound).mpr
        (h timeSeries hseries (List.ne_nil_of_mem hproduced) labelSource label hlabel hname)
    rw [hcomes.dimensionValues_perm.count_eq, dimensionValues_of_mem_timeSeriesLines hproduced,
      count_dimensions found.dimensionNames, hnil, List.count_nil, zero_add]

def exampleRuntime : Runtime Unit where
  floatText := .wholeOrFraction
  limits := ⟨100, 250, 250, 100, 250⟩
  dtSecurityContextValue := "project".toList
  createMmh3Hash := List.flatten
  timestamp := fun _ => .ok 1000
  extractValue := fun _ _ _ => .ok (some (.text "5".toList))

def exampleService : GCPService where
  name := "cloudsql_instance_database".toList
  featureSet := "insights".toList
  technologyName := "N/A".toList
  dimensions := []
  metrics := []
  activation := .map []
  minSamplePeriodOverride := 0
  monitoringFilter := []
  isEnabled := true
  extensionName := "com.dynatrace.extension.google-cloudsql".toList
  autodiscoveryEnabled := false

def perqueryMetric (dimensions : List DimensionDefinition) : Metric :=
  Metric.init {
    name := none
    key := some "cloud.gcp.perquery.execution_time".toList
    value := some "metric:cloudsql.googleapis.com/perquery/execution_time".toList
    type := some "count,delta".toList
    description := none
    gcpOptions := some ⟨some "CUMULATIVE".toList, some "INT64".toList, none, none, none⟩
    dimensions := some dimensions } 0 false []

def querystringSeries : TimeSeries Unit where
  metricLabels := OrderedDict.empty.set "querystring".toList "SELECT 1".toList
  resourceLabels := some OrderedDict.empty
  systemLabels := .empty
  userLabels := .empty
  valueType := "INT64".toList
  points := [()]

def excludeQuerystring : List (Option ExcludedMetric) :=
  [some ⟨.str "cloudsql.googleapis.com/perquery/".toList, some [.str "querystring".toList]⟩]

def exampleSource : MetricSource := ⟨[], exampleService.name, none⟩

theorem findExcludedMetric_perquery (dimensions : List DimensionDefinition) :
    findExcludedMetric (perqueryMetric dimensions).googleMetric excludeQuerystring =
      some ⟨.str "cloudsql.googleapis.com/perquery/".toList,
        some [.str "querystring".toList]⟩ := by
  have hname : (perqueryMetric dimensions).googleMetric =
      "cloudsql.googleapis.com/perquery/execution_time".toList := by
    simp only [perqueryMetric, Metric.init]
    decide +kernel
  rw [hname]
  rfl

theorem undeclared_label_is_sent :
    ¬ ∀ (R : Runtime Unit) (service : MonitoredService) (metric : Metric)
      (entries : List (Option ExcludedMetric)) (found : ExcludedMetric)
      (responses : List (Response Unit)) (lines : List (IngestLine PyValue))
      (source : MetricSource),
      service.metricSource metric = .ok source →
        findExcludedMetric metric.googleMetric entries = some found →
          found.dimensions.getD [] ≠ [] →
            fetchMetric R service metric entries responses = .ok lines →
              CarriesNone R (fetchPlan metric source entries) found.dimensionNames responses
                lines := by
  intro hclaim
  have hfound := findExcludedMetric_perquery []
  have hok : (fetchMetric exampleRuntime (.extension exampleService) (perqueryMetric [])
      excludeQuerystring [.page [querystringSeries] []]).toOption.isSome = true := by
    decide +kernel
  obtain ⟨lines, hlines⟩ := exists_ok_of_isSome hok
  have hcarries := hclaim exampleRuntime (.extension exampleService) (perqueryMetric [])
    excludeQuerystring _ _ lines exampleSource rfl hfound (by simp) hlines
  have hdeclared := eachDeclared_of_carriesNone rfl hfound hlines hcarries
  have hlines' : timeSeriesLines exampleRuntime
      (fetchPlan (perqueryMetric []) exampleSource excludeQuerystring) querystringSeries ≠ [] := by
    decide +kernel
  obtain ⟨⟨dimension, hmem, -⟩, -⟩ := hdeclared querystringSeries (by simp [readTimeSeries]) hlines'
    .metric ("querystring".toList, "SELECT 1".toList) (by decide +kernel) (by decide +kernel)
  contradiction

theorem declared_label_is_cut_off :
    ∃ lines, fetchMetric exampleRuntime (.extension exampleService)
        (perqueryMetric [⟨some "querystring".toList, none⟩]) excludeQuerystring
          [.page [querystringSeries] []] = .ok lines ∧
      CarriesNone exampleRuntime
        (fetchPlan (perqueryMetric [⟨some "querystring".toList, none⟩]) exampleSource
          excludeQuerystring) ["querystring".toList] [.page [querystringSeries] []] lines := by
  have hok : (fetchMetric exampleRuntime (.extension exampleService)
      (perqueryMetric [⟨some "querystring".toList, none⟩]) excludeQuerystring
        [.page [querystringSeries] []]).toOption.isSome = true := by
    decide +kernel
  obtain ⟨lines, hlines⟩ := exists_ok_of_isSome hok
  refine ⟨lines, hlines, ?_⟩
  apply (carriesNone_iff_eachDeclared rfl (findExcludedMetric_perquery _) hlines).mpr
  intro timeSeries hseries _ labelSource label hlabel _
  obtain rfl : timeSeries = querystringSeries := by
    simpa [readTimeSeries] using hseries
  cases labelSource with
  | metric =>
    obtain rfl : label = ("querystring".toList, "SELECT 1".toList) :=
      List.mem_singleton.mp hlabel
    decide +kernel
  | resource => exact absurd hlabel List.not_mem_nil
  | system => exact absurd hlabel List.not_mem_nil
  | user => exact absurd hlabel List.not_mem_nil

end GcpMonitor.Metrics
