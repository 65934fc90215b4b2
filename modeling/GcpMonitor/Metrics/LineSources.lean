import GcpMonitor.Entities.EnrichedLine
import GcpMonitor.Metrics.DistinctSeries
import GcpMonitor.Metrics.ExcludedDimensions
import GcpMonitor.Metrics.LineReader

namespace GcpMonitor.Metrics

open Python ExceptList
open Entities (ExtractorRuntime Entity)

def valueText (F : FloatText) : PyValue → Text
  | .number x => x.str F
  | .text s => s

variable {Point : Type}

section Sources

/-- The names and values that `create_dimensions` makes dimensions of. -/
def samplePeriodSources (metric : Metric) (effectiveSamplePeriod : Option ℤ) :
    List (Text × Text) :=
  match effectiveSamplePeriod with
  | some period => [("dt.min_sample_period_override".toList, periodSeconds period)]
  | none =>
    if metric.samplePeriodOverridden then
      [("dt.min_sample_period_override".toList, periodSeconds metric.samplePeriodSeconds)]
    else []

variable (plan : FetchPlan)

def FetchPlan.headSources (dtSecurityContextValue : Text) : List (Text × Text) :=
  [("gcp.resource.type".toList, plan.source.serviceName),
    ("metadata.origin".toList,
      if plan.metric.autodiscoveredMetric then "autodiscovery".toList else "extension".toList),
    ("dt.security_context".toList, dtSecurityContextValue),
    ("dt.source".toList, "com.dynatrace.gcp".toList)] ++
    samplePeriodSources plan.metric plan.source.effectiveSamplePeriod

def FetchPlan.labelSources (source : LabelSource) (label : Text × Text) : List (Text × Text) :=
  if plan.excludedSourceDimensions.contains (source.sourceDimension label.1) then []
  else (labelNames plan.dtDimensionsMapping source label.1).map (fun name => (name, label.2))

def FetchPlan.sources (R : Runtime Point) (timeSeries : TimeSeries Point) : List (Text × Text) :=
  plan.headSources R.dtSecurityContextValue ++
    Metrics.labelSources.flatMap (fun source =>
      (timeSeries.labels source).flatMap (plan.labelSources source))

def entitySources (X : ExtractorRuntime) (lower : Text → Text) (entity : Entity) :
    List (Text × Text) :=
  (entity.ipAddresses.head?.map (fun first => (Entities.ipAddressName, X.str first))).toList ++
    entity.properties.map (fun cdProperty =>
      (Entities.entityDimensionPrefix ++ lower (cdProperty.1.replace ' ' ['_']),
        X.str cdProperty.2))

variable {plan} {R : Runtime Point}

theorem samplePeriodDimensions_eq (limits : LengthLimits) (metric : Metric)
    (effectiveSamplePeriod : Option ℤ) :
    samplePeriodDimensions limits metric effectiveSamplePeriod =
      (samplePeriodSources metric effectiveSamplePeriod).map
        (fun source => createDimension limits source.1 source.2) := by
  cases effectiveSamplePeriod with
  | some period => rfl
  | none =>
    simp only [samplePeriodDimensions, samplePeriodSources]
    split_ifs <;> rfl

theorem labelSources_eq (limits : LengthLimits) (source : LabelSource) (label : Text × Text) :
    labelDimensions limits plan.dtDimensionsMapping plan.excludedSourceDimensions source label =
      (plan.labelSources source label).map
        (fun source => createDimension limits source.1 source.2) := by
  rw [labelDimensions_eq, FetchPlan.labelSources]
  simp only [List.contains_iff_mem]
  split_ifs
  · rfl
  · rw [List.map_map]
    rfl

theorem FetchPlan.dimensions_eq (timeSeries : TimeSeries Point) :
    plan.dimensions R timeSeries = (plan.sources R timeSeries).map
      (fun source => createDimension R.limits source.1 source.2) := by
  have hlabels : (fun source => (timeSeries.labels source).flatMap
      (labelDimensions R.limits plan.dtDimensionsMapping plan.excludedSourceDimensions source)) =
        fun source => ((timeSeries.labels source).flatMap (plan.labelSources source)).map
          (fun source => createDimension R.limits source.1 source.2) := by
    funext source
    rw [List.map_flatMap]
    congr 1
    funext label
    exact labelSources_eq R.limits source label
  rw [FetchPlan.dimensions, createDimensions_eq, hlabels, FetchPlan.sources, List.map_append,
    List.map_flatMap, headDimensions, samplePeriodDimensions_eq, FetchPlan.headSources,
    List.map_append]
  rfl

theorem enrichLine_eq (limits : LengthLimits) (X : ExtractorRuntime) (lower : Text → Text)
    (entityIdMap : OrderedDict Text Entity) (line : IngestLine PyValue) :
    ∃ dimensionValues, Entities.enrichLine limits X lower entityIdMap line =
      { line with dimensionValues } := by
  rw [Entities.enrichLine]
  cases entityIdMap.get line.entityId with
  | none => exact ⟨line.dimensionValues, rfl⟩
  | some entity => exact ⟨_, rfl⟩

theorem enrichLine_dimensionValues {limits : LengthLimits} (X : ExtractorRuntime)
    (lower : Text → Text) (entityIdMap : OrderedDict Text Entity) {line : IngestLine PyValue}
    {sources : List (Text × Text)}
    (h : line.dimensionValues =
      sources.map (fun source => createDimension limits source.1 source.2)) :
    (Entities.enrichLine limits X lower entityIdMap line).dimensionValues =
      (sources ++ ((entityIdMap.get line.entityId).map (entitySources X lower)).getD []).map
        (fun source => createDimension limits source.1 source.2) := by
  rw [Entities.enrichLine]
  cases entityIdMap.get line.entityId with
  | none => rw [Option.map_none, Option.getD_none, List.append_nil, h]
  | some entity =>
    rw [Option.map_some, Option.getD_some, List.map_append, entitySources, List.map_append, ← h,
      ← List.append_assoc, List.map_map]
    dsimp only
    congr 2
    rw [Entities.ipAddressDimensions]
    cases entity.ipAddresses <;> rfl

end Sources

section Names

def PlainName (name : Text) : Prop := ∀ c ∈ name, isNameChar c = true

theorem plainName_of_all {name : Text} (h : name.all isNameChar = true) : PlainName name :=
  List.all_eq_true.mp h

theorem mem_sortedSet {names : List Text} {name : Text} :
    name ∈ sortedSet names ↔ name ∈ names := by
  rw [sortedSet, (List.mergeSort_perm _ _).mem_iff, List.mem_dedup]

def DtDimensionsMap.PlainNames (mapping : DtDimensionsMap) : Prop :=
  ∀ sourceDimension names, mapping.get sourceDimension = some names →
    ∀ name ∈ names, PlainName name

theorem DtDimensionsMap.PlainNames.add {mapping : DtDimensionsMap} (h : mapping.PlainNames)
    (sourceDimension : Text) {dtTargetDimension : Text} (hname : PlainName dtTargetDimension) :
    (mapping.addLabelMapping sourceDimension dtTargetDimension).PlainNames := by
  intro other names hget name hmem
  rw [addLabelMapping] at hget
  by_cases hother : other = sourceDimension
  · rw [hother, OrderedDict.get_set_self] at hget
    cases hget
    rcases List.mem_append.mp hmem with hmem | hmem
    · cases hold : mapping.get sourceDimension with
      | none =>
        rw [hold] at hmem
        contradiction
      | some old =>
        rw [hold] at hmem
        exact h sourceDimension old hold name hmem
    · rw [List.mem_singleton.mp hmem]
      exact hname
  · rw [OrderedDict.get_set_of_ne _ _ hother] at hget
    exact h other names hget name hmem

theorem plainNames_fetchPlan {metric : Metric} {source : MetricSource}
    (entries : List (Option ExcludedMetric))
    (h : ∀ dimension ∈ source.serviceDimensions ++ metric.dimensions,
      PlainName dimension.keyForSendToDynatrace) :
    (fetchPlan metric source entries).dtDimensionsMapping.PlainNames := by
  have hfold : ∀ (dimensions : List Dimension) (mapping : DtDimensionsMap), mapping.PlainNames →
      (∀ dimension ∈ dimensions, PlainName dimension.keyForSendToDynatrace) →
        (dimensions.foldl addDimension mapping).PlainNames := by
    intro dimensions
    induction dimensions with
    | nil =>
      intro mapping hmapping _
      exact hmapping
    | cons dimension rest ih =>
      intro mapping hmapping hnames
      apply ih _ _ (fun dimension hmem => hnames dimension (List.mem_cons_of_mem _ hmem))
      rw [addDimension]
      split_ifs
      · exact hmapping.add _ (hnames dimension List.mem_cons_self)
      · exact hmapping
  apply hfold
  · intro sourceDimension names hget
    contradiction
  · intro dimension hmem
    exact h dimension (List.mem_of_mem_filter hmem)

theorem plainName_labelNames {mapping : DtDimensionsMap} (h : mapping.PlainNames)
    (source : LabelSource) {label : Text} (hlabel : PlainName label) :
    ∀ name ∈ labelNames mapping source label, PlainName name := by
  have hmapped : ∀ name ∈ mapping.getDtDimensions (source.sourceDimension label) label,
      PlainName name := by
    intro name hmem
    rw [DtDimensionsMap.getDtDimensions, mem_sortedSet] at hmem
    cases hget : mapping.get (source.sourceDimension label) with
    | none =>
      rw [hget] at hmem
      rw [List.mem_singleton.mp hmem]
      exact hlabel
    | some names =>
      rw [hget] at hmem
      exact h _ names hget name hmem
  intro name hmem
  cases source with
  | metric => exact hmapped name hmem
  | system => exact hmapped name hmem
  | user =>
    rw [List.mem_singleton.mp hmem]
    exact hlabel
  | resource =>
    simp only [labelNames, resourceLabelAliases] at hmem
    split_ifs at hmem
    · rw [mem_sortedSet, List.mem_append, List.mem_singleton] at hmem
      rcases hmem with hmem | rfl
      · exact hmapped name hmem
      · exact plainName_of_all rfl
    · exact hmapped name hmem

theorem name_of_samplePeriodSources {metric : Metric} {effectiveSamplePeriod : Option ℤ}
    {source : Text × Text} (h : source ∈ samplePeriodSources metric effectiveSamplePeriod) :
    source.1 = "dt.min_sample_period_override".toList := by
  cases effectiveSamplePeriod with
  | some period => rw [List.mem_singleton.mp h]
  | none =>
    simp only [samplePeriodSources] at h
    split_ifs at h
    · rw [List.mem_singleton.mp h]
    · contradiction

theorem plainName_headSources (plan : FetchPlan) (dtSecurityContextValue : Text) :
    ∀ source ∈ plan.headSources dtSecurityContextValue, PlainName source.1 := by
  have hnames : ∀ name ∈ ["gcp.resource.type".toList, "metadata.origin".toList,
      "dt.security_context".toList, "dt.source".toList,
      "dt.min_sample_period_override".toList], PlainName name := by
    simp only [List.forall_mem_cons, List.not_mem_nil, false_imp_iff, implies_true, and_true]
    exact ⟨plainName_of_all rfl, plainName_of_all rfl, plainName_of_all rfl,
      plainName_of_all rfl, plainName_of_all rfl⟩
  intro source hmem
  apply hnames
  rcases List.mem_append.mp hmem with hmem | hmem
  · have hfirst := List.mem_map_of_mem (f := Prod.fst) hmem
    exact List.mem_append_left ["dt.min_sample_period_override".toList] hfirst
  · rw [name_of_samplePeriodSources hmem]
    exact List.mem_of_getElem? (i := 4) rfl

theorem FetchPlan.plainName_sources {plan : FetchPlan} {R : Runtime Point}
    {timeSeries : TimeSeries Point} (hmapping : plan.dtDimensionsMapping.PlainNames)
    (hlabels : ∀ source, ∀ label ∈ timeSeries.labels source, PlainName label.1) :
    ∀ source ∈ plan.sources R timeSeries, PlainName source.1 := by
  intro source hmem
  rw [FetchPlan.sources, List.mem_append] at hmem
  rcases hmem with hmem | hmem
  · exact plainName_headSources plan _ source hmem
  · obtain ⟨group, -, hmem⟩ := List.mem_flatMap.mp hmem
    obtain ⟨label, hlabel, hmem⟩ := List.mem_flatMap.mp hmem
    rw [FetchPlan.labelSources] at hmem
    split_ifs at hmem
    · contradiction
    · obtain ⟨name, hname, rfl⟩ := List.mem_map.mp hmem
      exact plainName_labelNames hmapping group (hlabels group label hlabel) name hname

end Names

end GcpMonitor.Metrics
