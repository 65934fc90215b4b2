import GcpMonitor.Entities.EnrichedAddress
import GcpMonitor.Metrics.CycleAccounting
import GcpMonitor.Metrics.ToldLines

namespace GcpMonitor.Metrics

open Python ExceptList TransitionSystem
open Entities (ExtractorRuntime Entity)

variable {Point : Type}

section Delivered

variable (R : Runtime Point) (X : ExtractorRuntime) (lower : Text → Text)
  (excludedMetricsAndDimensions : List (Option ExcludedMetric))

/-- The names in an extension and in the answers are those of keys: the protocol can tell them
apart from what stands around them. -/
structure Fetch.Plain (fetch : Fetch Point) : Prop where
  key_ne : fetch.metric.dynatraceName.take R.limits.allowedMetricKeyLength ≠ []
  key : PlainName fetch.metric.dynatraceName
  type : fetch.metric.dynatraceMetricType = "count,delta".toList ∨
    PlainName fetch.metric.dynatraceMetricType
  dimensions : ∀ source, fetch.service.metricSource fetch.metric = .ok source →
    ∀ dimension ∈ source.serviceDimensions ++ fetch.metric.dimensions,
      PlainName dimension.keyForSendToDynatrace
  labels : ∀ timeSeries ∈ readTimeSeries fetch.responses, ∀ source,
    ∀ label ∈ timeSeries.labels source, PlainName label.1

def PlainEntities (entityIdMap : OrderedDict Text Entity) : Prop :=
  ∀ id entity, entityIdMap.get id = some entity → ∀ cdProperty ∈ entity.properties,
    PlainName (lower (cdProperty.1.replace ' ' ['_']))

def enrichment (entityIdMap : OrderedDict Text Entity) (line : IngestLine PyValue) :
    List (Text × Text) :=
  ((entityIdMap.get line.entityId).map (entitySources X lower)).getD []

def ComesOf (fetches : List (Fetch Point)) (entityIdMap : OrderedDict Text Entity)
    (line : IngestLine PyValue) (sources : List (Text × Text)) : Prop :=
  ∃ fetch ∈ fetches, ∃ source, fetch.service.metricSource fetch.metric = .ok source ∧
    ∃ labels, (fetchPlan fetch.metric source excludedMetricsAndDimensions).Tells R fetch.responses
      line labels ∧ sources = labels ++ enrichment X lower entityIdMap line

variable {R X lower excludedMetricsAndDimensions}

theorem plainName_entitySources {entityIdMap : OrderedDict Text Entity}
    (h : PlainEntities lower entityIdMap) (line : IngestLine PyValue) :
    ∀ source ∈ enrichment X lower entityIdMap line, PlainName source.1 := by
  have haddress : PlainName Entities.ipAddressName := plainName_of_all rfl
  have hprefix : PlainName Entities.entityDimensionPrefix := plainName_of_all rfl
  intro source hmem
  rw [enrichment] at hmem
  cases hget : entityIdMap.get line.entityId with
  | none =>
    rw [hget] at hmem
    contradiction
  | some entity =>
    rw [hget, Option.map_some, Option.getD_some, entitySources, List.mem_append] at hmem
    rcases hmem with hmem | hmem
    · rw [Option.mem_toList, Option.map_eq_some_iff] at hmem
      obtain ⟨first, -, rfl⟩ := hmem
      exact haddress
    · obtain ⟨cdProperty, hproperty, rfl⟩ := List.mem_map.mp hmem
      intro c hc
      rcases List.mem_append.mp hc with hc | hc
      · exact hprefix c hc
      · exact h _ entity hget cdProperty hproperty c hc

theorem plain_of_enriched {fetch : Fetch Point} (hfetch : fetch.Plain R) (hR : R.WritesWords)
    {entityIdMap : OrderedDict Text Entity} (hentities : PlainEntities lower entityIdMap)
    {line : IngestLine PyValue}
    (hline : line ∈ fetch.ingestLines R excludedMetricsAndDimensions) :
    ∃ source labels, fetch.service.metricSource fetch.metric = .ok source ∧
      (fetchPlan fetch.metric source excludedMetricsAndDimensions).Tells R fetch.responses
        (Entities.enrichLine R.limits X lower entityIdMap line) labels ∧
      (Entities.enrichLine R.limits X lower entityIdMap line).Plain R.limits
        (valueText R.floatText) (labels ++ enrichment X lower entityIdMap
          (Entities.enrichLine R.limits X lower entityIdMap line)) := by
  rw [Fetch.ingestLines, runFetchMetric] at hline
  split at hline
  · next lines hlines =>
    obtain ⟨source, hsource, hpages⟩ := bind_eq_ok_iff.mp hlines
    obtain ⟨result, hresult, hpages⟩ := bind_eq_ok_iff.mp hpages
    cases hpages
    obtain ⟨⟨labels, htells, hdimensions⟩, hword⟩ := told_of_addPages hR hresult line hline
    have henriched := enrichLine_dimensionValues X lower entityIdMap hdimensions
    obtain ⟨dimensionValues, heq⟩ := enrichLine_eq R.limits X lower entityIdMap line
    rw [heq] at henriched ⊢
    have htells' : (fetchPlan fetch.metric source excludedMetricsAndDimensions).Tells R
        fetch.responses { line with dimensionValues } labels := htells
    refine ⟨source, labels, hsource, htells', ?_⟩
    obtain ⟨hname, htype, timeSeries, hseries, hlabels, -⟩ := htells
    have hnames := FetchPlan.plainName_sources (R := R)
      (plainNames_fetchPlan excludedMetricsAndDimensions (hfetch.dimensions source hsource))
      (hfetch.labels timeSeries hseries)
    constructor
    · rw [hname]
      exact hfetch.key_ne
    · rw [hname]
      exact hfetch.key
    · rw [htype]
      exact hfetch.type
    · exact hword
    · exact henriched
    · intro pair hpair
      rcases List.mem_append.mp hpair with hpair | hpair
      · rw [hlabels] at hpair
        exact hnames pair hpair
      · exact plainName_entitySources hentities _ pair hpair
  · contradiction

theorem plain_of_delivered {fetches : List (Fetch Point)}
    (hfetches : ∀ fetch ∈ fetches, fetch.Plain R) (hR : R.WritesWords)
    {entityIdMap : OrderedDict Text Entity} (hentities : PlainEntities lower entityIdMap)
    {line : IngestLine PyValue}
    (hline : line ∈ Entities.flattenAndEnrichMetricResults R.limits X lower
      (fetches.map (Fetch.ingestLines R excludedMetricsAndDimensions)) entityIdMap) :
    ∃ sources, ComesOf R X lower excludedMetricsAndDimensions fetches entityIdMap line sources ∧
      line.Plain R.limits (valueText R.floatText) sources := by
  obtain ⟨fetched, hfetched, rfl⟩ := List.mem_map.mp hline
  obtain ⟨lines, hlines, hfetched⟩ := List.mem_flatten.mp hfetched
  obtain ⟨fetch, hfetch, rfl⟩ := List.mem_map.mp hlines
  obtain ⟨source, labels, hsource, htells, hplain⟩ :=
    plain_of_enriched (hfetches fetch hfetch) hR hentities hfetched
  exact ⟨_, ⟨fetch, hfetch, source, hsource, labels, htells, rfl⟩, hplain⟩

theorem mem_results_of_task {Line Payload : Type} {S : IngestSettings Line Payload}
    {s : PollingState Line} (h : (pushSystem S).Reachable s) {call : Call Line}
    (hcall : call ∈ s.calls) {task : BatchTask Line} (htask : task ∈ call.tasks) :
    task.batch ≠ [] ∧ ∀ line ∈ task.batch, line ∈ call.fetchMetricResults := by
  obtain ⟨hvalid, hsettled⟩ := PollingState.calls_settled h call hcall
  have hskipped : call.skipped = false := by
    by_contra hskipped
    rw [Bool.not_eq_false] at hskipped
    rw [hsettled.skipped hskipped] at htask
    contradiction
  have hbatches := hvalid.recorded.batches hskipped
  have hmem : task.batch ∈ makeBatches S.metricIngestBatchSize call.fetchMetricResults := by
    rw [← hbatches]
    exact List.mem_map_of_mem htask
  refine ⟨(makeBatches_bounded _ _ _ hmem).1, ?_⟩
  intro line hline
  rw [← makeBatches_flatten S.metricIngestBatchSize call.fetchMetricResults]
  exact List.mem_flatten.mpr ⟨_, hmem, hline⟩

end Delivered

theorem exampleRuntime_writesWords : exampleRuntime.WritesWords where
  floats := by
    intro q
    have hzero : Word ".0".toList := word_of_all rfl
    change Word (if q.den = 1 then _ else _)
    split_ifs
    · exact (word_ofInt _).append hzero
    · apply (word_ofInt _).append
      intro c hc
      rcases List.mem_cons.mp hc with rfl | hc
      · exact ⟨by decide, by decide⟩
      · exact word_ofInt _ c hc
  values := by
    intro point key metric value h
    cases h
    exact word_of_all rfl

def quotedSeries : TimeSeries Unit where
  metricLabels := OrderedDict.empty.set "querystring".toList "SELECT \"1\"".toList
  resourceLabels := some OrderedDict.empty
  systemLabels := .empty
  userLabels := .empty
  valueType := "INT64".toList
  points := [()]

def quotedFetch : Fetch Unit where
  service := .extension exampleService
  metric := perqueryMetric []
  responses := [.page [quotedSeries] []]

theorem quotedFetch_plain : quotedFetch.Plain exampleRuntime where
  key_ne := by
    decide +kernel
  key := plainName_of_all (by decide +kernel)
  type := .inl rfl
  dimensions := by
    intro source hsource dimension hmem
    cases hsource
    contradiction
  labels := by
    intro timeSeries hseries source label hlabel
    rw [List.mem_singleton.mp hseries] at hlabel
    cases source with
    | metric =>
      rw [List.mem_singleton.mp hlabel]
      exact plainName_of_all rfl
    | _ => contradiction

def plainSettings : IngestSettings (IngestLine PyValue) Text where
  payload := fun batch =>
    .ok (linesInput exampleRuntime.limits (valueText exampleRuntime.floatText) batch)
  float := fun _ => none
  printable := fun _ _ => true
  dynatraceUrl := "https://environment".toList
  metricIngestBatchSize := 3000
  metricIngestConcurrentPushes := 1

def quotedLines : List (IngestLine PyValue) :=
  Entities.flattenAndEnrichMetricResults exampleRuntime.limits Entities.writingRuntime
    (List.map Char.toLower) ([quotedFetch].map (Fetch.ingestLines exampleRuntime [])) .empty

end GcpMonitor.Metrics
