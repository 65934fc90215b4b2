import GcpMonitor.Library.ListBlocks
import GcpMonitor.Metrics.CreateDimensions

namespace GcpMonitor.Metrics

open ListBlocks

def DtDimensionsMap.ofCalls (calls : List (Text × Text)) : DtDimensionsMap :=
  calls.foldl (fun mapping call => mapping.addLabelMapping call.1 call.2) .empty

theorem named_ofCalls (calls : List (Text × Text)) : (DtDimensionsMap.ofCalls calls).Named := by
  rw [DtDimensionsMap.ofCalls]
  induction calls using List.reverseRecOn with
  | nil => exact named_empty
  | append_singleton calls call ih =>
    rw [List.foldl_append]
    exact named_addLabelMapping ih call.1 call.2

/-- A value that goes out as it came, apart from the escapes. -/
structure PlainValue (limits : LengthLimits) (value : Text) : Prop where
  nonempty : value ≠ []
  unbroken : ∀ c ∈ value, c ≠ '\r' ∧ c ≠ '\n' ∧ c ≠ '\t'
  fits : (sanitizeDimensionValue value).length ≤ valueLimit limits

theorem PlainValue.withSpaces_eq {limits : LengthLimits} {value : Text}
    (h : PlainValue limits value) : withSpaces value = value := by
  rw [withSpaces]
  have hchar : ∀ c ∈ value, (if c = '\r' ∨ c = '\n' ∨ c = '\t' then ' ' else c) = c := by
    intro c hc
    obtain ⟨hcr, hlf, htab⟩ := h.unbroken c hc
    rw [if_neg]
    rintro (hc | hc | hc) <;> contradiction
  rw [List.map_congr_left hchar, List.map_id']

theorem createDimension_value_of_plain {limits : LengthLimits} {value : Text}
    (h : PlainValue limits value) (name : Text) :
    (createDimension limits name value).value = mint.escape value := by
  have hfits := h.fits
  rw [sanitizeDimensionValue_eq, h.withSpaces_eq] at hfits
  rw [createDimension_value, h.withSpaces_eq]
  exact if_pos hfits

theorem createDimension_inj {limits : LengthLimits} {value₁ value₂ : Text}
    (h₁ : PlainValue limits value₁) (h₂ : PlainValue limits value₂) {name : Text} :
    createDimension limits name value₁ = createDimension limits name value₂ ↔
      value₁ = value₂ := by
  constructor
  · intro h
    have hvalue := congrArg DimensionValue.value h
    rw [createDimension_value_of_plain h₁, createDimension_value_of_plain h₂] at hvalue
    exact mint.escape_injective hvalue
  · intro h
    rw [h]

def labelNames (mapping : DtDimensionsMap) (source : LabelSource) (label : Text) : List Text :=
  let mapped := mapping.getDtDimensions (source.sourceDimension label) label
  match source with
  | .metric => mapped
  | .resource =>
    match resourceLabelAliases label with
    | some otherName => sortedSet (mapped ++ [otherName])
    | none => mapped
  | .system => mapped
  | .user => [label]

section

variable {limits : LengthLimits} {mapping : DtDimensionsMap} {excludedSourceDimensions : List Text}

theorem labelDimensions_eq (source : LabelSource) (label : Text × Text) :
    labelDimensions limits mapping excludedSourceDimensions source label =
      if source.sourceDimension label.1 ∈ excludedSourceDimensions then []
      else (labelNames mapping source label.1).map
        (fun name => createDimension limits name label.2) := by
  cases source <;> rfl

theorem length_labelDimensions {source : LabelSource} {label₁ label₂ : Text × Text}
    (hkey : label₁.1 = label₂.1) :
    (labelDimensions limits mapping excludedSourceDimensions source label₁).length =
      (labelDimensions limits mapping excludedSourceDimensions source label₂).length := by
  rw [labelDimensions_eq, labelDimensions_eq, hkey]
  split_ifs
  · rfl
  · rw [List.length_map, List.length_map]

theorem labelDimensions_eq_iff (h : mapping.Named) {source : LabelSource}
    {label₁ label₂ : Text × Text} (hkey : label₁.1 = label₂.1)
    (h₁ : PlainValue limits label₁.2) (h₂ : PlainValue limits label₂.2) :
    labelDimensions limits mapping excludedSourceDimensions source label₁ =
        labelDimensions limits mapping excludedSourceDimensions source label₂ ↔
      (source.sourceDimension label₁.1 ∉ excludedSourceDimensions → label₁.2 = label₂.2) := by
  have hnil₁ : labelDimensions limits mapping excludedSourceDimensions source label₁ = [] ↔ _ :=
    labelDimensions_eq_nil_iff h
  have hnil₂ : labelDimensions limits mapping excludedSourceDimensions source label₂ = [] ↔ _ :=
    labelDimensions_eq_nil_iff h
  by_cases hexcluded : source.sourceDimension label₁.1 ∈ excludedSourceDimensions
  · rw [hnil₁.mpr hexcluded, hnil₂.mpr (hkey ▸ hexcluded)]
    exact iff_of_true rfl (fun hnot => absurd hexcluded hnot)
  · have hne := mt hnil₁.mp hexcluded
    rw [labelDimensions_eq, if_neg hexcluded, List.map_eq_nil_iff] at hne
    obtain ⟨name, names, hnames⟩ := List.exists_cons_of_ne_nil hne
    rw [labelDimensions_eq, labelDimensions_eq, ← hkey, if_neg hexcluded, if_neg hexcluded, hnames]
    constructor
    · intro heq _
      rw [List.map_cons, List.map_cons, List.cons.injEq] at heq
      exact (createDimension_inj h₁ h₂).mp heq.1
    · intro heq
      rw [heq hexcluded]

end

def labelSources : List LabelSource := [.metric, .resource, .system, .user]

section

variable (limits : LengthLimits) (dtSecurityContextValue serviceName : Text)
  (mapping : DtDimensionsMap) (metric : Metric) (effectiveSamplePeriod : Option ℤ)
  (excludedSourceDimensions : List Text)

def headDimensions : List DimensionValue :=
  [createDimension limits "gcp.resource.type".toList serviceName,
    createDimension limits "metadata.origin".toList
      (if metric.autodiscoveredMetric then "autodiscovery".toList else "extension".toList),
    createDimension limits "dt.security_context".toList dtSecurityContextValue,
    createDimension limits "dt.source".toList "com.dynatrace.gcp".toList] ++
    samplePeriodDimensions limits metric effectiveSamplePeriod

theorem createDimensions_eq {Point : Type} (timeSeries : TimeSeries Point) :
    createDimensions limits dtSecurityContextValue serviceName timeSeries mapping metric
        effectiveSamplePeriod excludedSourceDimensions =
      headDimensions limits dtSecurityContextValue serviceName metric effectiveSamplePeriod ++
        labelSources.flatMap (fun source => (timeSeries.labels source).flatMap
          (labelDimensions limits mapping excludedSourceDimensions source)) := by
  simp only [createDimensions, headDimensions, labelSources, List.flatMap_cons, List.flatMap_nil,
    List.append_nil, List.append_assoc]

end

theorem nodup_labels {Point : Type} (timeSeries : TimeSeries Point) (source : LabelSource) :
    ((timeSeries.labels source).map Prod.fst).Nodup := by
  cases source with
  | metric => exact timeSeries.metricLabels.nodup
  | resource => exact (timeSeries.resourceLabels.getD .empty).nodup
  | system => exact timeSeries.systemLabels.nodup
  | user => exact timeSeries.userLabels.nodup

theorem forall₂_labelSources {R : LabelSource → LabelSource → Prop} :
    List.Forall₂ R labelSources labelSources ↔ ∀ source, R source source := by
  rw [List.forall₂_same]
  constructor
  · intro h source
    exact h source (by cases source <;> decide)
  · intro h source _
    exact h source

theorem distinct_series (limits : LengthLimits) (dtSecurityContextValue serviceName : Text)
    (calls : List (Text × Text)) (metric : Metric) (effectiveSamplePeriod : Option ℤ)
    (excludedSourceDimensions : List Text) {Point : Type} (series₁ series₂ : TimeSeries Point)
    (hkeys : ∀ source, (series₁.labels source).map Prod.fst = (series₂.labels source).map Prod.fst)
    (hplain₁ : ∀ source, ∀ label ∈ series₁.labels source, PlainValue limits label.2)
    (hplain₂ : ∀ source, ∀ label ∈ series₂.labels source, PlainValue limits label.2) :
    (createDimensions limits dtSecurityContextValue serviceName series₁ (.ofCalls calls) metric
        effectiveSamplePeriod excludedSourceDimensions =
      createDimensions limits dtSecurityContextValue serviceName series₂ (.ofCalls calls) metric
        effectiveSamplePeriod excludedSourceDimensions ↔
      ∀ (source : LabelSource), ∀ label₁ ∈ series₁.labels source,
        ∀ label₂ ∈ series₂.labels source, label₁.1 = label₂.1 →
          source.sourceDimension label₁.1 ∉ excludedSourceDimensions → label₁.2 = label₂.2) ∧
    ∀ (source : LabelSource), ∀ label ∈ series₁.labels source,
      source.sourceDimension label.1 ∉ excludedSourceDimensions →
      labelDimensions limits (.ofCalls calls) excludedSourceDimensions source label ≠ [] ∧
      ∀ dimension ∈ labelDimensions limits (.ofCalls calls) excludedSourceDimensions source label,
        dimension.value = mint.escape label.2 ∧
        dimension ∈ createDimensions limits dtSecurityContextValue serviceName series₁
          (.ofCalls calls) metric effectiveSamplePeriod excludedSourceDimensions := by
  have hnamed := named_ofCalls calls
  have hblocks : ∀ source, List.Forall₂ (fun label₁ label₂ : Text × Text =>
      (labelDimensions limits (.ofCalls calls) excludedSourceDimensions source label₁).length =
        (labelDimensions limits (.ofCalls calls) excludedSourceDimensions source label₂).length)
      (series₁.labels source) (series₂.labels source) := by
    intro source
    apply forall₂_of_map_fst_eq (hkeys source)
    intro label₁ _ label₂ _ hkey
    exact length_labelDimensions hkey
  constructor
  · rw [createDimensions_eq, createDimensions_eq, List.append_cancel_left_eq,
      flatMap_eq_flatMap_iff, forall₂_labelSources]
    · apply forall_congr'
      intro source
      rw [flatMap_eq_flatMap_iff (hblocks source)]
      constructor
      · intro h label₁ h₁ label₂ h₂ hkey
        have heq := forall₂_mem_of_nodup (hkeys source) (nodup_labels series₁ source) h h₁ h₂ hkey
        exact (labelDimensions_eq_iff hnamed hkey (hplain₁ source label₁ h₁)
          (hplain₂ source label₂ h₂)).mp heq
      · intro h
        apply forall₂_of_map_fst_eq (hkeys source)
        intro label₁ h₁ label₂ h₂ hkey
        exact (labelDimensions_eq_iff hnamed hkey (hplain₁ source label₁ h₁)
          (hplain₂ source label₂ h₂)).mpr (h label₁ h₁ label₂ h₂ hkey)
    · rw [forall₂_labelSources]
      intro source
      exact length_flatMap_eq (hblocks source)
  · intro source label hlabel hexcluded
    refine ⟨mt (labelDimensions_eq_nil_iff hnamed).mp hexcluded, ?_⟩
    intro dimension hdimension
    refine ⟨?_, mem_createDimensions hlabel hdimension⟩
    rw [labelDimensions_eq, if_neg hexcluded] at hdimension
    obtain ⟨name, -, rfl⟩ := List.mem_map.mp hdimension
    exact createDimension_value_of_plain (hplain₁ source label hlabel) name

def stateSeries (state : Text) : TimeSeries Unit where
  metricLabels := OrderedDict.empty.set "state".toList state
  resourceLabels := some (OrderedDict.empty.set "project_id".toList "p".toList)
  systemLabels := .empty
  userLabels := .empty
  valueType := "INT64".toList
  points := []

theorem plainValue_of_all {limits : LengthLimits} {value : Text} (hne : value ≠ [])
    (hunbroken : value.all (fun c => c ≠ '\r' && c ≠ '\n' && c ≠ '\t') = true)
    (hfits : (sanitizeDimensionValue value).length ≤ valueLimit limits) :
    PlainValue limits value := by
  refine ⟨hne, ?_, hfits⟩
  intro c hc
  simpa [and_assoc] using List.all_eq_true.mp hunbroken c hc

theorem distinct_series_of_states :
    let metric := Metric.init ⟨none, none, none, none, none, none, none⟩ 0 false []
    createDimensions ⟨100, 250, 250, 100, 250⟩ [] [] (stateSeries "a\"".toList) (.ofCalls []) metric
        none ["resource.labels.project_id".toList] ≠
      createDimensions ⟨100, 250, 250, 100, 250⟩ [] [] (stateSeries "b".toList) (.ofCalls []) metric
        none ["resource.labels.project_id".toList] := by
  intro metric heq
  have hplain : ∀ state, PlainValue ⟨100, 250, 250, 100, 250⟩ state → ∀ (source : LabelSource),
      ∀ label ∈ (stateSeries state).labels source,
        PlainValue ⟨100, 250, 250, 100, 250⟩ label.2 := by
    intro state hstate source label hlabel
    cases source with
    | metric =>
      obtain rfl := List.mem_singleton.mp hlabel
      exact hstate
    | resource =>
      obtain rfl := List.mem_singleton.mp hlabel
      exact plainValue_of_all (by decide) (by decide) (by decide +kernel)
    | system => exact absurd hlabel List.not_mem_nil
    | user => exact absurd hlabel List.not_mem_nil
  have h := distinct_series ⟨100, 250, 250, 100, 250⟩ [] [] [] metric none
    ["resource.labels.project_id".toList] (stateSeries "a\"".toList) (stateSeries "b".toList)
    (by intro source; cases source <;> rfl)
    (hplain _ (plainValue_of_all (by decide) (by decide) (by decide +kernel)))
    (hplain _ (plainValue_of_all (by decide) (by decide) (by decide +kernel)))
  have hvalues := h.1.mp heq .metric ("state".toList, "a\"".toList) List.mem_cons_self
    ("state".toList, "b".toList) List.mem_cons_self rfl (by decide +kernel)
  exact absurd hvalues (by decide)

end GcpMonitor.Metrics
