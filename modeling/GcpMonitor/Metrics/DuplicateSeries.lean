import GcpMonitor.Metrics.ExcludedDimensions

namespace GcpMonitor.Metrics

open Python ExceptList

/-- What a MINT reader tells the points of the series apart by. -/
abbrev SeriesPoint := Text × ℤ × Multiset DimensionValue

def seriesPoint (line : IngestLine PyValue) : SeriesPoint :=
  (line.metricName, line.timestamp, ↑line.dimensionValues)

section Aggregate

variable {F : FloatText} {valueType : Text} {lines : List (IngestLine PyValue)}
  {aggregated : Aggregated}

/-- The stored line has the key of every line that was merged into it. -/
def SharesKey (lines : List (IngestLine PyValue)) (stored : IngestLine PyValue) : Prop :=
  ∀ line ∈ lines, aggregationKey stored = aggregationKey line

theorem foldlM_addAggregatedLine_grouped
    (h : lines.foldlM (addAggregatedLine F valueType) OrderedDict.empty = .ok aggregated) :
    OrderedDict.Grouped aggregationKey SharesKey lines aggregated := by
  induction lines using List.reverseRecOn generalizing aggregated with
  | nil =>
    cases h
    exact .nil
  | append_singleton lines last ih =>
    rw [List.foldlM_append] at h
    obtain ⟨before, hbefore, hlast⟩ := bind_eq_ok_iff.mp h
    obtain ⟨next, hnext, hlast⟩ := bind_eq_ok_iff.mp hlast
    cases hlast
    obtain ⟨stored, rfl, hstored⟩ := addAggregatedLine_eq_ok F hnext
    apply (ih hbefore).snoc
    intro line hline
    rcases List.mem_append.mp hline with hline | hline
    · rw [hstored]
      exact (of_decide_eq_true (List.mem_filter.mp hline).2).symm
    · rw [List.mem_singleton.mp hline, hstored]

theorem grouped_stored (h : OrderedDict.Grouped aggregationKey SharesKey lines aggregated) :
    ∀ stored ∈ aggregated.values, ∃ line ∈ lines, groupOf stored = groupOf line := by
  intro stored hstored
  obtain ⟨⟨key, stored⟩, hmem, rfl⟩ := List.mem_map.mp hstored
  obtain ⟨line, hline, rfl⟩ := (h.mem_keys key).mp (List.mem_map_of_mem hmem)
  have hshares := h.stands _ stored (OrderedDict.get_of_mem_entries hmem)
  exact ⟨line, hline, aggregationKey_eq_iff.mp (hshares line (by simp [hline]))⟩

theorem nodup_groups (h : OrderedDict.Grouped aggregationKey SharesKey lines aggregated) :
    (aggregated.values.map groupOf).Nodup := by
  have hkeys : aggregated.values.map aggregationKey = aggregated.keys := by
    rw [OrderedDict.values, List.map_map, OrderedDict.keys]
    apply List.map_congr_left
    rintro ⟨key, stored⟩ hmem
    obtain ⟨line, hline, rfl⟩ := (h.mem_keys key).mp (List.mem_map_of_mem hmem)
    exact h.stands _ stored (OrderedDict.get_of_mem_entries hmem) line (by simp [hline])
  have hnodup : (aggregated.values.map aggregationKey).Nodup := hkeys ▸ aggregated.nodup
  refine List.Nodup.map_on ?_ hnodup.of_map
  intro stored hstored stored' hstored' hgroup
  exact List.inj_on_of_nodup_map hnodup hstored hstored' (aggregationKey_eq_iff.mpr hgroup)

theorem nodup_seriesPoints_iff
    (h : lines.foldlM (addAggregatedLine F valueType) OrderedDict.empty = .ok aggregated) :
    (aggregated.values.map seriesPoint).Nodup ↔
      ∀ line ∈ lines, ∀ line' ∈ lines, seriesPoint line = seriesPoint line' →
        groupOf line = groupOf line' := by
  have hgrouped := foldlM_addAggregatedLine_grouped h
  have hpoint : ∀ line line' : IngestLine PyValue, groupOf line = groupOf line' →
      seriesPoint line = seriesPoint line' := by
    intro line line' hgroup
    simp only [groupOf, seriesPoint, Prod.mk.injEq] at hgroup ⊢
    exact ⟨hgroup.2.1, hgroup.2.2.2⟩
  constructor
  · intro hnodup line hline line' hline' hsame
    obtain ⟨stored, hstored, hgroup⟩ := exists_group_of_foldlM F h line hline
    obtain ⟨stored', hstored', hgroup'⟩ := exists_group_of_foldlM F h line' hline'
    have heq : seriesPoint stored = seriesPoint stored' :=
      (hpoint _ _ hgroup).trans (hsame.trans (hpoint _ _ hgroup').symm)
    rw [← hgroup, ← hgroup', List.inj_on_of_nodup_map hnodup hstored hstored' heq]
  · intro hkey
    have hnodup := nodup_groups hgrouped
    refine List.Nodup.map_on ?_ hnodup.of_map
    intro stored hstored stored' hstored' hsame
    obtain ⟨line, hline, hgroup⟩ := grouped_stored hgrouped stored hstored
    obtain ⟨line', hline', hgroup'⟩ := grouped_stored hgrouped stored' hstored'
    have hlines := hkey line hline line' hline'
      ((hpoint _ _ hgroup).symm.trans (hsame.trans (hpoint _ _ hgroup')))
    exact List.inj_on_of_nodup_map hnodup hstored hstored'
      (hgroup.trans (hlines.trans hgroup'.symm))

end Aggregate

variable {Point : Type} (R : Runtime Point)

def HasLineAt (plan : FetchPlan) (timeSeries : TimeSeries Point) (timestamp : ℤ) : Prop :=
  ∃ typedValueKey', typedValueKey timeSeries.valueType = .ok typedValueKey' ∧
    ∃ point ∈ timeSeries.points, R.timestamp point = .ok timestamp ∧
      ∃ value, R.extractValue point typedValueKey' plan.metric = .ok (some value)

def FetchPlan.entityId (plan : FetchPlan) (timeSeries : TimeSeries Point) : Except PyError Text :=
  createEntityId R plan.source.serviceName plan.source.serviceDimensions timeSeries

/-- Two time series with the same dimensions at one time are also the same entity. -/
def EntitiesToldApart (plan : FetchPlan) (responses : List (Response Point)) : Prop :=
  ∀ timeSeries ∈ readTimeSeries responses, ∀ timeSeries' ∈ readTimeSeries responses,
    ∀ timestamp, HasLineAt R plan timeSeries timestamp → HasLineAt R plan timeSeries' timestamp →
      (plan.dimensions R timeSeries).Perm (plan.dimensions R timeSeries') →
        ∀ entityId entityId', plan.entityId R timeSeries = .ok entityId →
          plan.entityId R timeSeries' = .ok entityId' → entityId = entityId'

section

variable {R} {plan : FetchPlan}

theorem convertPointToIngestLine_eq_some_iff {dimensions : List DimensionValue} {metric : Metric}
    {point : Point} {typedValueKey entityId : Text} {line : IngestLine PyValue} :
    convertPointToIngestLine R dimensions metric point typedValueKey entityId = .ok (some line) ↔
      ∃ timestamp value, R.timestamp point = .ok timestamp ∧
        R.extractValue point typedValueKey metric = .ok (some value) ∧
        line = ⟨entityId, metric.dynatraceName, metric.dynatraceMetricType, value, timestamp,
          dimensions⟩ := by
  rw [convertPointToIngestLine, bind_eq_ok_iff]
  constructor
  · rintro ⟨timestamp, htimestamp, h⟩
    split at h
    · next value hvalue =>
      cases h
      exact ⟨timestamp, value, htimestamp, hvalue, rfl⟩
    · cases h
  · rintro ⟨timestamp, value, htimestamp, hvalue, rfl⟩
    refine ⟨timestamp, htimestamp, ?_⟩
    rw [hvalue]
    rfl

theorem mem_timeSeriesLines_iff {timeSeries : TimeSeries Point} {line : IngestLine PyValue} :
    line ∈ timeSeriesLines R plan timeSeries ↔
      ∃ typedValueKey' entityId, typedValueKey timeSeries.valueType = .ok typedValueKey' ∧
        plan.entityId R timeSeries = .ok entityId ∧
        ∃ point ∈ timeSeries.points, convertPointToIngestLine R (plan.dimensions R timeSeries)
          plan.metric point typedValueKey' entityId = .ok (some line) := by
  rw [timeSeriesLines, FetchPlan.entityId]
  cases hkey : typedValueKey timeSeries.valueType with
  | error e =>
    apply iff_of_false
    · exact List.not_mem_nil
    · rintro ⟨typedValueKey', entityId, h, -⟩
      cases h
  | ok typedValueKey' =>
    cases hentity : createEntityId R plan.source.serviceName plan.source.serviceDimensions
        timeSeries with
    | error e =>
      apply iff_of_false
      · exact List.not_mem_nil
      · rintro ⟨typedValueKey', entityId, -, h, -⟩
        cases h
    | ok entityId =>
      simp only [List.mem_filterMap]
      constructor
      · rintro ⟨point, hpoint, h⟩
        split at h
        · next converted hconverted =>
          rw [h] at hconverted
          exact ⟨_, _, rfl, rfl, point, hpoint, hconverted⟩
        · cases h
      · rintro ⟨_, _, hkey', hentity', point, hpoint, h⟩
        cases hkey'
        cases hentity'
        exact ⟨point, hpoint, by rw [h]⟩

theorem entitiesToldApart_iff (responses : List (Response Point)) :
    EntitiesToldApart R plan responses ↔
      ∀ line ∈ (readTimeSeries responses).flatMap (timeSeriesLines R plan),
        ∀ line' ∈ (readTimeSeries responses).flatMap (timeSeriesLines R plan),
          seriesPoint line = seriesPoint line' → groupOf line = groupOf line' := by
  constructor
  · intro h line hline line' hline' hsame
    obtain ⟨timeSeries, hseries, hline⟩ := List.mem_flatMap.mp hline
    obtain ⟨timeSeries', hseries', hline'⟩ := List.mem_flatMap.mp hline'
    obtain ⟨key, entityId, hkey, hentity, point, hpoint, hline⟩ :=
      mem_timeSeriesLines_iff.mp hline
    obtain ⟨key', entityId', hkey', hentity', point', hpoint', hline'⟩ :=
      mem_timeSeriesLines_iff.mp hline'
    obtain ⟨timestamp, value, htimestamp, hvalue, rfl⟩ :=
      convertPointToIngestLine_eq_some_iff.mp hline
    obtain ⟨timestamp', value', htimestamp', hvalue', rfl⟩ :=
      convertPointToIngestLine_eq_some_iff.mp hline'
    simp only [seriesPoint, groupOf, Prod.mk.injEq, Multiset.coe_eq_coe, true_and] at hsame ⊢
    obtain ⟨rfl, hdimensions⟩ := hsame
    refine ⟨?_, rfl, hdimensions⟩
    exact h timeSeries hseries timeSeries' hseries' timestamp
      ⟨key, hkey, point, hpoint, htimestamp, value, hvalue⟩
      ⟨key', hkey', point', hpoint', htimestamp', value', hvalue'⟩ hdimensions entityId entityId'
      hentity hentity'
  · intro h timeSeries hseries timeSeries' hseries' timestamp hat hat' hdimensions entityId
      entityId' hentity hentity'
    obtain ⟨key, hkey, point, hpoint, htimestamp, value, hvalue⟩ := hat
    obtain ⟨key', hkey', point', hpoint', htimestamp', value', hvalue'⟩ := hat'
    have hline := mem_timeSeriesLines_iff.mpr ⟨key, entityId, hkey, hentity, point, hpoint,
      convertPointToIngestLine_eq_some_iff.mpr ⟨timestamp, value, htimestamp, hvalue, rfl⟩⟩
    have hline' := mem_timeSeriesLines_iff.mpr ⟨key', entityId', hkey', hentity', point', hpoint',
      convertPointToIngestLine_eq_some_iff.mpr ⟨timestamp, value', htimestamp', hvalue', rfl⟩⟩
    have hgroup := h _ (List.mem_flatMap.mpr ⟨timeSeries, hseries, hline⟩) _
      (List.mem_flatMap.mpr ⟨timeSeries', hseries', hline'⟩) (by
        simp only [seriesPoint, Prod.mk.injEq, Multiset.coe_eq_coe, true_and]
        exact hdimensions)
    simp only [groupOf, Prod.mk.injEq] at hgroup
    exact hgroup.1

end

section

variable {R} {service : MonitoredService} {metric : Metric}
  {entries : List (Option ExcludedMetric)} {source : MetricSource}
  {responses : List (Response Point)} {lines : List (IngestLine PyValue)}

theorem aggregateLocally_of {plan : FetchPlan} (hexcluded : plan.excludedSourceDimensions ≠ [])
    (hkind : "cumulative".toList.isPrefixOf (plan.metric.googleMetricKind.map Char.toLower) = true)
    (hvalueType : ["int64".toList, "double".toList, "distribution".toList].contains
      (plan.metric.valueType.map Char.toLower) = true) : plan.aggregateLocally = true := by
  rw [FetchPlan.aggregateLocally, hkind, hvalueType, decide_eq_true hexcluded]
  rfl

theorem nodup_seriesPoints_iff_entitiesToldApart
    (hsource : service.metricSource metric = .ok source)
    (haggregate : (fetchPlan metric source entries).aggregateLocally = true)
    (hlines : fetchMetric R service metric entries responses = .ok lines) :
    (lines.map seriesPoint).Nodup ↔
      EntitiesToldApart R (fetchPlan metric source entries) responses := by
  obtain ⟨result, hresult, rfl⟩ := fetchMetric_eq_ok hsource hlines
  rw [if_pos haggregate] at hresult
  obtain ⟨aggregated, rfl, hfold⟩ := foldlM_addLine_aggregated (addPages_eq_ok hresult)
  rw [entitiesToldApart_iff]
  exact nodup_seriesPoints_iff hfold

end

theorem no_duplicate_series_iff (service : MonitoredService) (metric : Metric)
    (entries : List (Option ExcludedMetric)) (responses : List (Response Point))
    {source : MetricSource} (hsource : service.metricSource metric = .ok source)
    (hexcluded : (fetchPlan metric source entries).excludedSourceDimensions ≠ [])
    (hkind : "cumulative".toList.isPrefixOf (metric.googleMetricKind.map Char.toLower) = true)
    (hvalueType : ["int64".toList, "double".toList, "distribution".toList].contains
      (metric.valueType.map Char.toLower) = true)
    {lines : List (IngestLine PyValue)}
    (hlines : fetchMetric R service metric entries responses = .ok lines) :
    (lines.map seriesPoint).Nodup ↔
      EntitiesToldApart R (fetchPlan metric source entries) responses :=
  nodup_seriesPoints_iff_entitiesToldApart hsource
    (aggregateLocally_of hexcluded hkind hvalueType) hlines

def databaseService : GCPService :=
  { exampleService with
    dimensions := [Dimension.init
      ⟨some "database_id".toList, some "label:resource.labels.database_id".toList⟩] }

def databaseSource : MetricSource := ⟨databaseService.dimensions, databaseService.name, none⟩

def databaseSeries (databaseId : Text) : TimeSeries Unit where
  metricLabels := .empty
  resourceLabels := some (OrderedDict.empty.set "database_id".toList databaseId)
  systemLabels := .empty
  userLabels := .empty
  valueType := "INT64".toList
  points := [()]

def excludeDatabaseId : List (Option ExcludedMetric) :=
  [some ⟨.str "cloudsql.googleapis.com/perquery/".toList, some [.str "database_id".toList]⟩]

theorem excluded_databaseId : (fetchPlan (perqueryMetric []) databaseSource
    excludeDatabaseId).excludedSourceDimensions ≠ [] := by
  decide +kernel

theorem hasLineAt_databaseSeries (plan : FetchPlan) (databaseId : Text) :
    HasLineAt exampleRuntime plan (databaseSeries databaseId) 1000 :=
  ⟨"int64Value".toList, rfl, (), List.mem_singleton_self _, rfl, _, rfl⟩

theorem excluded_identity_duplicates_series :
    ¬ ∀ (R : Runtime Unit) (service : MonitoredService) (metric : Metric)
      (entries : List (Option ExcludedMetric)) (responses : List (Response Unit))
      (source : MetricSource) (lines : List (IngestLine PyValue)),
      service.metricSource metric = .ok source →
        (fetchPlan metric source entries).excludedSourceDimensions ≠ [] →
          "cumulative".toList.isPrefixOf (metric.googleMetricKind.map Char.toLower) = true →
            ["int64".toList, "double".toList, "distribution".toList].contains
              (metric.valueType.map Char.toLower) = true →
              fetchMetric R service metric entries responses = .ok lines →
                (lines.map seriesPoint).Nodup := by
  intro hclaim
  have hexcluded := excluded_databaseId
  have hok : (fetchMetric exampleRuntime (.extension databaseService) (perqueryMetric [])
      excludeDatabaseId [.page [databaseSeries "a".toList, databaseSeries "b".toList]
        []]).toOption.isSome = true := by
    decide +kernel
  obtain ⟨lines, hlines⟩ := exists_ok_of_isSome hok
  have hnodup := hclaim exampleRuntime (.extension databaseService) (perqueryMetric [])
    excludeDatabaseId _ databaseSource lines rfl hexcluded (by decide +kernel) (by decide +kernel)
    hlines
  have hapart := (nodup_seriesPoints_iff_entitiesToldApart rfl
    (aggregateLocally_of hexcluded (by decide +kernel) (by decide +kernel)) hlines).mp hnodup
  have hsame : (fetchPlan (perqueryMetric []) databaseSource excludeDatabaseId).dimensions
      exampleRuntime (databaseSeries "a".toList) =
        (fetchPlan (perqueryMetric []) databaseSource excludeDatabaseId).dimensions
          exampleRuntime (databaseSeries "b".toList) := by
    decide +kernel
  have hentity := hapart (databaseSeries "a".toList) (by simp [readTimeSeries])
    (databaseSeries "b".toList) (by simp [readTimeSeries]) 1000
    (hasLineAt_databaseSeries _ _) (hasLineAt_databaseSeries _ _) (List.Perm.of_eq hsame)
    (databaseService.name ++ "a".toList) (databaseService.name ++ "b".toList)
    (by decide +kernel) (by decide +kernel)
  exact absurd hentity (by decide +kernel)

def idleSeries : TimeSeries Unit :=
  { databaseSeries "b".toList with
    metricLabels := OrderedDict.empty.set "state".toList "idle".toList }

theorem no_duplicate_series_by_state :
    ∃ lines, fetchMetric exampleRuntime (.extension databaseService) (perqueryMetric [])
        excludeDatabaseId [.page [databaseSeries "a".toList, idleSeries] []] = .ok lines ∧
      (lines.map seriesPoint).Nodup := by
  have hok : (fetchMetric exampleRuntime (.extension databaseService) (perqueryMetric [])
      excludeDatabaseId [.page [databaseSeries "a".toList, idleSeries] []]).toOption.isSome =
        true := by
    decide +kernel
  obtain ⟨lines, hlines⟩ := exists_ok_of_isSome hok
  have hexcluded := excluded_databaseId
  have hdiffer : ¬ ((fetchPlan (perqueryMetric []) databaseSource excludeDatabaseId).dimensions
      exampleRuntime (databaseSeries "a".toList)).Perm
        ((fetchPlan (perqueryMetric []) databaseSource excludeDatabaseId).dimensions
          exampleRuntime idleSeries) := by
    decide +kernel
  have hiff := no_duplicate_series_iff exampleRuntime (.extension databaseService)
    (perqueryMetric []) excludeDatabaseId _ rfl hexcluded (by decide +kernel) (by decide +kernel)
    hlines
  refine ⟨lines, hlines, hiff.mpr ?_⟩
  intro timeSeries hseries timeSeries' hseries' _ _ _ hperm entityId entityId' hentity hentity'
  simp only [readTimeSeries, ne_eq, not_true_eq_false, if_false, List.append_nil, List.mem_cons,
    List.not_mem_nil, or_false] at hseries hseries'
  rcases hseries with rfl | rfl <;> rcases hseries' with rfl | rfl
  · exact Except.ok.inj (hentity.symm.trans hentity')
  · exact absurd hperm hdiffer
  · exact absurd hperm.symm hdiffer
  · exact Except.ok.inj (hentity.symm.trans hentity')

end GcpMonitor.Metrics
