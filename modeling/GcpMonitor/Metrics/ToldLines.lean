import GcpMonitor.Metrics.LineSources
import GcpMonitor.Metrics.PointTimestamps

namespace GcpMonitor.Metrics

open Python ExceptList

variable {Point : Type}

section Words

def Word (s : Text) : Prop := ∀ c ∈ s, c ≠ ' ' ∧ c ≠ '\n'

theorem word_of_all {s : Text} (h : s.all (fun c => c ≠ ' ' && c ≠ '\n') = true) : Word s := by
  intro c hc
  simpa using List.all_eq_true.mp h c hc

theorem Word.append {s t : Text} (hs : Word s) (ht : Word t) : Word (s ++ t) := by
  intro c hc
  rcases List.mem_append.mp hc with hc | hc
  · exact hs c hc
  · exact ht c hc

theorem word_ofInt (n : ℤ) : Word (Text.ofInt n) := by
  intro c hc
  constructor
  · rintro rfl
    exact Text.not_mem_ofInt (by decide) rfl hc
  · rintro rfl
    exact Text.not_mem_ofInt (by decide) rfl hc

/-- The numbers that Python writes and the values that the API gives have no blanks. -/
structure Runtime.WritesWords (R : Runtime Point) : Prop where
  floats : ∀ q, Word (R.floatText.str q)
  values : ∀ point typedValueKey metric value,
    R.extractValue point typedValueKey metric = .ok (some value) →
      Word (valueText R.floatText value)

variable {F : FloatText}

theorem word_number (hF : ∀ q, Word (F.str q)) (x : PyNumber) : Word (x.str F) := by
  cases x with
  | int n => exact word_ofInt n
  | float q => exact hF q

theorem word_gaugeLine (hF : ∀ q, Word (F.str q)) (distMin distMax : PyNumber) (distCount : ℤ)
    (distSum : PyNumber) : Word (gaugeLine (.exact F) distMin distMax distCount distSum none) := by
  have hmin : Word "min=".toList := word_of_all rfl
  have hmax : Word ",max=".toList := word_of_all rfl
  have hcount : Word ",count=".toList := word_of_all rfl
  have hsum : Word ",sum=".toList := word_of_all rfl
  have hnumber := word_number hF
  exact ((((((hmin.append (hnumber _)).append hmax).append (hnumber _)).append hcount).append
    (word_ofInt _)).append hsum).append (hnumber _)

theorem exists_gaugeLine {first second merged : PyValue}
    (h : mergeDistributionValues (.exact F) first second = .ok merged) :
    ∃ distMin distMax distCount distSum,
      merged = .text (gaugeLine (.exact F) distMin distMax distCount distSum none) := by
  rw [mergeDistributionValues] at h
  -- two dictionaries, and of each of the four entries two texts that are read
  iterate 18 obtain ⟨_, -, h⟩ := bind_eq_ok_iff.mp h
  cases h
  exact ⟨_, _, _, _, rfl⟩

theorem word_mergeValues (hF : ∀ q, Word (F.str q)) {valueType : Text}
    {existing value merged : PyValue} (h : mergeValues F valueType existing value = .ok merged) :
    Word (valueText F merged) := by
  rw [mergeValues] at h
  split_ifs at h
  · obtain ⟨_, _, _, _, rfl⟩ := exists_gaugeLine h
    exact word_gaugeLine hF _ _ _ _
  · obtain ⟨_, -, h⟩ := bind_eq_ok_iff.mp h
    obtain ⟨_, -, h⟩ := bind_eq_ok_iff.mp h
    cases h
    exact word_ofInt _
  · obtain ⟨_, -, h⟩ := bind_eq_ok_iff.mp h
    obtain ⟨_, -, h⟩ := bind_eq_ok_iff.mp h
    cases h
    exact hF _

end Words

structure Fetch (Point : Type) where
  service : MonitoredService
  metric : Metric
  responses : List (Response Point)

def Fetch.ingestLines (R : Runtime Point)
    (excludedMetricsAndDimensions : List (Option ExcludedMetric)) (fetch : Fetch Point) :
    List (IngestLine PyValue) :=
  runFetchMetric R fetch.service fetch.metric excludedMetricsAndDimensions fetch.responses

section Origin

variable (R : Runtime Point) (plan : FetchPlan) (responses : List (Response Point))

/-- The line says when a point of a time series ended, with dimensions from these sources of that
time series, and its value is the one of the point unless values are merged. -/
def FetchPlan.Tells (line : IngestLine PyValue) (sources : List (Text × Text)) : Prop :=
  line.metricName = plan.metric.dynatraceName ∧
    line.metricType = plan.metric.dynatraceMetricType ∧
    ∃ timeSeries ∈ readTimeSeries responses, sources = plan.sources R timeSeries ∧
      ∃ point ∈ timeSeries.points, R.timestamp point = .ok line.timestamp ∧
        (plan.aggregateLocally = false → ∃ key, typedValueKey timeSeries.valueType = .ok key ∧
          R.extractValue point key plan.metric = .ok (some line.value))

def FetchPlan.Told (line : IngestLine PyValue) : Prop :=
  ∃ sources, plan.Tells R responses line sources ∧ line.dimensionValues =
    sources.map (fun source => createDimension R.limits source.1 source.2)

variable {R plan responses}

theorem told_of_mem (hR : R.WritesWords) {timeSeries : TimeSeries Point}
    (hseries : timeSeries ∈ readTimeSeries responses) {line : IngestLine PyValue}
    (h : line ∈ timeSeriesLines R plan timeSeries) :
    plan.Told R responses line ∧ Word (valueText R.floatText line.value) := by
  rw [timeSeriesLines] at h
  split at h
  · next key entityId hkey _ =>
    obtain ⟨point, hpoint, hline⟩ := List.mem_filterMap.mp h
    split at hline
    · next line' hconvert =>
      subst hline
      obtain ⟨timestamp, htimestamp, hconvert⟩ := bind_eq_ok_iff.mp hconvert
      split at hconvert
      · next value hvalue =>
        cases hconvert
        have htells : plan.Tells R responses ⟨entityId, plan.metric.dynatraceName,
            plan.metric.dynatraceMetricType, value, timestamp, plan.dimensions R timeSeries⟩
              (plan.sources R timeSeries) :=
          ⟨rfl, rfl, timeSeries, hseries, rfl, point, hpoint, htimestamp,
            fun _ => ⟨key, hkey, hvalue⟩⟩
        exact ⟨⟨_, htells, plan.dimensions_eq timeSeries⟩, hR.values _ _ _ _ hvalue⟩
      · cases hconvert
    · contradiction
  · contradiction

theorem FetchPlan.Told.merge (haggregate : plan.aggregateLocally = true)
    {line : IngestLine PyValue} (h : plan.Told R responses line) (value : PyValue) :
    plan.Told R responses { line with value } := by
  obtain ⟨sources, ⟨hname, htype, timeSeries, hseries, hsources, point, hpoint, htimestamp, -⟩,
    hdimensions⟩ := h
  refine ⟨sources, ⟨hname, htype, timeSeries, hseries, hsources, point, hpoint, htimestamp, ?_⟩,
    hdimensions⟩
  intro hnot
  rw [haggregate] at hnot
  contradiction

theorem told_of_aggregated (hR : R.WritesWords) (haggregate : plan.aggregateLocally = true)
    {lines : List (IngestLine PyValue)} {start aggregated : Aggregated}
    (hlines : ∀ line ∈ lines, plan.Told R responses line ∧ Word (valueText R.floatText line.value))
    (hstart : ∀ line ∈ start.values,
      plan.Told R responses line ∧ Word (valueText R.floatText line.value))
    (h : lines.foldlM (addAggregatedLine R.floatText plan.metric.valueType) start =
      .ok aggregated) :
    ∀ line ∈ aggregated.values,
      plan.Told R responses line ∧ Word (valueText R.floatText line.value) := by
  induction lines generalizing start with
  | nil =>
    cases h
    exact hstart
  | cons line lines ih =>
    obtain ⟨next, hnext, hrest⟩ := bind_eq_ok_iff.mp h
    obtain ⟨hline, hword⟩ := hlines line List.mem_cons_self
    apply ih (fun line hmem => hlines line (List.mem_cons_of_mem _ hmem)) _ hrest
    intro other hother
    rw [addAggregatedLine] at hnext
    split at hnext
    · cases hnext
      rcases OrderedDict.mem_values_set hother with rfl | hother
      · exact ⟨hline, hword⟩
      · exact hstart other hother
    · obtain ⟨value, hvalue, hnext⟩ := bind_eq_ok_iff.mp hnext
      cases hnext
      rcases OrderedDict.mem_values_set hother with rfl | hother
      · exact ⟨hline.merge haggregate value, word_mergeValues hR.floats hvalue⟩
      · exact hstart other hother

theorem told_of_addPages (hR : R.WritesWords) {result : Lines}
    (h : addPages R plan (if plan.aggregateLocally then .aggregated .empty else .listed [])
      responses = .ok result) :
    ∀ line ∈ result.values,
      plan.Told R responses line ∧ Word (valueText R.floatText line.value) := by
  have hlines : ∀ line ∈ (readTimeSeries responses).flatMap (timeSeriesLines R plan),
      plan.Told R responses line ∧ Word (valueText R.floatText line.value) := by
    intro line hmem
    obtain ⟨timeSeries, hseries, hmem⟩ := List.mem_flatMap.mp hmem
    exact told_of_mem hR hseries hmem
  have hfold := addPages_eq_ok h
  by_cases haggregate : plan.aggregateLocally = true
  · rw [if_pos haggregate] at hfold
    obtain ⟨aggregated, rfl, hgroups⟩ := foldlM_addLine_aggregated hfold
    apply told_of_aggregated hR haggregate hlines _ hgroups
    intro line hmem
    contradiction
  · rw [if_neg haggregate, foldlM_addLine_listed] at hfold
    cases hfold
    exact hlines

end Origin

end GcpMonitor.Metrics
