import GcpMonitor.Metrics.Dimensions
import GcpMonitor.Metrics.Service
import GcpMonitor.Library.OrderedDict
import Mathlib.Data.Char
import Mathlib.Data.List.Dedup
import Mathlib.Data.List.Lex

namespace GcpMonitor.Metrics

/-- One entry of `timeSeries` in an answer. The values of the labels are as `str` writes them, and
the resource is none when the entry has none. -/
structure TimeSeries (Point : Type) where
  metricLabels : OrderedDict Text Text
  resourceLabels : Option (OrderedDict Text Text)
  systemLabels : OrderedDict Text Text
  userLabels : OrderedDict Text Text
  valueType : Text
  points : List Point

abbrev DtDimensionsMap := OrderedDict Text (List Text)

def sortedSet (names : List Text) : List Text := names.dedup.mergeSort (fun a b => decide (a ≤ b))

namespace DtDimensionsMap

def addLabelMapping (mapping : DtDimensionsMap) (sourceDimension dtTargetDimension : Text) :
    DtDimensionsMap :=
  mapping.set sourceDimension ((mapping.get sourceDimension).getD [] ++ [dtTargetDimension])

def getDtDimensions (mapping : DtDimensionsMap) (sourceDimension dtDimensionIfUnmapped : Text) :
    List Text :=
  sortedSet ((mapping.get sourceDimension).getD [dtDimensionIfUnmapped])

end DtDimensionsMap

inductive LabelSource where
  | metric
  | resource
  | system
  | user
  deriving DecidableEq

namespace LabelSource

def sourcePrefix : LabelSource → Text
  | .metric => "metric.labels".toList
  | .resource => "resource.labels".toList
  | .system => "metadata.system_labels".toList
  | .user => "metadata.user_labels".toList

def sourceDimension (source : LabelSource) (label : Text) : Text :=
  source.sourcePrefix ++ '.' :: label

end LabelSource

def resourceLabelAliases (label : Text) : Option Text :=
  if label = "project_id".toList then some "gcp.project.id".toList else none

section

variable (limits : LengthLimits) (mapping : DtDimensionsMap) (excludedSourceDimensions : List Text)

def mappedLabelDimensions (source : LabelSource) (aliases : Text → Option Text)
    (label : Text × Text) : List DimensionValue :=
  if source.sourceDimension label.1 ∈ excludedSourceDimensions then []
  else
    let mappedDtDimLabels := mapping.getDtDimensions (source.sourceDimension label.1) label.1
    let mappedDtDimLabels :=
      match aliases label.1 with
      | some otherName => sortedSet (mappedDtDimLabels ++ [otherName])
      | none => mappedDtDimLabels
    mappedDtDimLabels.map (fun dtDimLabel => createDimension limits dtDimLabel label.2)

def userLabelDimensions (label : Text × Text) : List DimensionValue :=
  if LabelSource.user.sourceDimension label.1 ∈ excludedSourceDimensions then []
  else [createDimension limits label.1 label.2]

def labelDimensions : LabelSource → Text × Text → List DimensionValue
  | .metric => mappedLabelDimensions limits mapping excludedSourceDimensions .metric (fun _ => none)
  | .resource =>
    mappedLabelDimensions limits mapping excludedSourceDimensions .resource resourceLabelAliases
  | .system => mappedLabelDimensions limits mapping excludedSourceDimensions .system (fun _ => none)
  | .user => userLabelDimensions limits excludedSourceDimensions

end

def TimeSeries.labels {Point : Type} (timeSeries : TimeSeries Point) :
    LabelSource → List (Text × Text)
  | .metric => timeSeries.metricLabels.entries
  | .resource => (timeSeries.resourceLabels.getD .empty).entries
  | .system => timeSeries.systemLabels.entries
  | .user => timeSeries.userLabels.entries

def periodSeconds (period : ℤ) : Text := Text.ofInt (period.tdiv second)

def samplePeriodDimensions (limits : LengthLimits) (metric : Metric)
    (effectiveSamplePeriod : Option ℤ) : List DimensionValue :=
  match effectiveSamplePeriod with
  | some period =>
    [createDimension limits "dt.min_sample_period_override".toList (periodSeconds period)]
  | none =>
    if metric.samplePeriodOverridden then
      [createDimension limits "dt.min_sample_period_override".toList
        (periodSeconds metric.samplePeriodSeconds)]
    else []

def createDimensions {Point : Type} (limits : LengthLimits) (dtSecurityContextValue : Text)
    (serviceName : Text) (timeSeries : TimeSeries Point) (mapping : DtDimensionsMap)
    (metric : Metric) (effectiveSamplePeriod : Option ℤ) (excludedSourceDimensions : List Text) :
    List DimensionValue :=
  let dimensions (source : LabelSource) :=
    (timeSeries.labels source).flatMap
      (labelDimensions limits mapping excludedSourceDimensions source)
  [createDimension limits "gcp.resource.type".toList serviceName,
    createDimension limits "metadata.origin".toList
      (if metric.autodiscoveredMetric then "autodiscovery".toList else "extension".toList),
    createDimension limits "dt.security_context".toList dtSecurityContextValue,
    createDimension limits "dt.source".toList "com.dynatrace.gcp".toList] ++
    samplePeriodDimensions limits metric effectiveSamplePeriod ++
    dimensions .metric ++ dimensions .resource ++ dimensions .system ++ dimensions .user

theorem sortedSet_ne_nil {names : List Text} (h : names ≠ []) : sortedSet names ≠ [] := by
  intro hnil
  have hperm := List.mergeSort_perm names.dedup (fun a b => decide (a ≤ b))
  rw [sortedSet] at hnil
  rw [hnil] at hperm
  exact h (List.dedup_eq_nil _ |>.mp hperm.nil_eq.symm)

def DtDimensionsMap.Named (mapping : DtDimensionsMap) : Prop :=
  ∀ sourceDimension names, mapping.get sourceDimension = some names → names ≠ []

theorem named_empty : DtDimensionsMap.Named OrderedDict.empty := by
  intro sourceDimension names h
  contradiction

theorem named_addLabelMapping {mapping : DtDimensionsMap} (h : mapping.Named)
    (sourceDimension dtTargetDimension : Text) :
    (mapping.addLabelMapping sourceDimension dtTargetDimension).Named := by
  intro other names hget
  rw [DtDimensionsMap.addLabelMapping] at hget
  by_cases hother : other = sourceDimension
  · subst hother
    rw [OrderedDict.get_set_self] at hget
    cases hget
    simp
  · rw [OrderedDict.get_set_of_ne _ _ hother] at hget
    exact h other names hget

theorem getDtDimensions_ne_nil {mapping : DtDimensionsMap} (h : mapping.Named)
    (sourceDimension label : Text) : mapping.getDtDimensions sourceDimension label ≠ [] := by
  apply sortedSet_ne_nil
  cases hget : mapping.get sourceDimension with
  | none => simp
  | some names => exact h sourceDimension names hget

section

variable {limits : LengthLimits} {mapping : DtDimensionsMap} {excludedSourceDimensions : List Text}

theorem mappedLabelDimensions_eq_nil_iff (h : mapping.Named) {source : LabelSource}
    {aliases : Text → Option Text} {label : Text × Text} :
    mappedLabelDimensions limits mapping excludedSourceDimensions source aliases label = [] ↔
      source.sourceDimension label.1 ∈ excludedSourceDimensions := by
  rw [mappedLabelDimensions]
  by_cases hexcluded : source.sourceDimension label.1 ∈ excludedSourceDimensions
  · exact iff_of_true (if_pos hexcluded) hexcluded
  · rw [if_neg hexcluded]
    refine iff_of_false ?_ hexcluded
    simp only [List.map_eq_nil_iff]
    cases aliases label.1 with
    | none => exact getDtDimensions_ne_nil h _ _
    | some otherName => exact sortedSet_ne_nil (by simp)

theorem labelDimensions_eq_nil_iff (h : mapping.Named) {source : LabelSource}
    {label : Text × Text} :
    labelDimensions limits mapping excludedSourceDimensions source label = [] ↔
      source.sourceDimension label.1 ∈ excludedSourceDimensions := by
  cases source with
  | metric =>
    rw [labelDimensions]
    exact mappedLabelDimensions_eq_nil_iff h
  | resource =>
    rw [labelDimensions]
    exact mappedLabelDimensions_eq_nil_iff h
  | system =>
    rw [labelDimensions]
    exact mappedLabelDimensions_eq_nil_iff h
  | user =>
    rw [labelDimensions, userLabelDimensions]
    split_ifs with hexcluded
    · exact iff_of_true rfl hexcluded
    · exact iff_of_false not_false hexcluded

theorem mem_createDimensions {Point : Type} {dtSecurityContextValue serviceName : Text}
    {timeSeries : TimeSeries Point} {metric : Metric} {effectiveSamplePeriod : Option ℤ}
    {source : LabelSource} {label : Text × Text} (hlabel : label ∈ timeSeries.labels source)
    {dimension : DimensionValue}
    (h : dimension ∈ labelDimensions limits mapping excludedSourceDimensions source label) :
    dimension ∈ createDimensions limits dtSecurityContextValue serviceName timeSeries mapping metric
      effectiveSamplePeriod excludedSourceDimensions := by
  have hmem : dimension ∈ (timeSeries.labels source).flatMap
      (labelDimensions limits mapping excludedSourceDimensions source) :=
    List.mem_flatMap.mpr ⟨label, hlabel, h⟩
  simp only [createDimensions, List.mem_append]
  cases source with
  | metric => exact .inl (.inl (.inl (.inr hmem)))
  | resource => exact .inl (.inl (.inr hmem))
  | system => exact .inl (.inr hmem)
  | user => exact .inr hmem

end

end GcpMonitor.Metrics
