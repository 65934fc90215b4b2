import GcpMonitor.Metrics.CycleAccounting
import GcpMonitor.SelfMonitoring.LogTimeSeries

namespace GcpMonitor.SelfMonitoring

open Python Metrics TransitionSystem
open Logs (DynatraceConnectivity)

structure SfmContext where
  projectIdOwner : Text
  dynatraceUrl : Text
  functionName : Text
  location : Text
  deriving DecidableEq

def SfmContext.createTimeseriesDatapoint (context : SfmContext) (metricType : Text)
    (metricLabels : List (Text × Text)) (points : List Point) (valueType : ValueType := .int64) :
    TimeSeries :=
  SelfMonitoring.createTimeseriesDatapoint
    ⟨context.projectIdOwner, context.location, context.functionName⟩ metricType metricLabels points
    valueType

def SfmContext.labels (context : SfmContext) : List (Text × Text) :=
  [("function_name".toList, context.functionName),
    ("dynatrace_tenant_url".toList, context.dynatraceUrl)]

inductive SfmMetric where
  | dynatraceRequestCount (value : OrderedDict ℕ ℕ)
  | gcpMetricRequestCount (value : OrderedDict Text ℕ)
  | dynatraceIngestLinesOkCount (value : OrderedDict Text Number)
  | dynatraceIngestLinesInvalidCount (value : OrderedDict Text Number)
  | dynatraceIngestLinesDroppedCount (value : OrderedDict Text ℕ)
  | setupExecutionTime (value : OrderedDict Text ℚ)
  | fetchGCPDataExecutionTime (value : OrderedDict Text ℚ)
  | pushToDynatraceExecutionTime (value : OrderedDict Text ℚ)
  | dynatraceConnectivity (value : DynatraceConnectivity)
  | loopTimeouts (value : ℕ)

def selfMonitoringLoopTimeoutsMetricType : Text :=
  (selfMonitoringMetricPrefix ++ "/loop_timeouts").toList

section Series

variable (context : SfmContext) (endTime : Text)

def ingestLinesSeries {ν : Type} (status : String) (count : ν → Number)
    (value : OrderedDict Text ν) : List TimeSeries :=
  value.entries.map fun entry => context.createTimeseriesDatapoint
    selfMonitoringIngestLinesMetricType
    (context.labels ++ [("status".toList, status.toList), ("project_id".toList, entry.1)])
    [⟨endTime, .int64Value (count entry.2)⟩]

def phaseSeries (phase : String) (value : OrderedDict Text ℚ) : List TimeSeries :=
  value.entries.map fun entry => context.createTimeseriesDatapoint
    selfMonitoringPhaseExecutionTimeMetricType
    (context.labels ++ [("phase".toList, phase.toList), ("project_id".toList, entry.1)])
    [⟨endTime, .doubleValue entry.2⟩] .double

def SfmMetric.generateTimeseriesDatapoints : SfmMetric → List TimeSeries
  | .dynatraceRequestCount value =>
    value.entries.map fun entry => context.createTimeseriesDatapoint
      selfMonitoringRequestCountMetricType
      (("response_code".toList, Text.ofInt entry.1) :: context.labels)
      [⟨endTime, .int64Value (.int entry.2)⟩]
  | .gcpMetricRequestCount _ => []
  | .dynatraceIngestLinesOkCount value => ingestLinesSeries context endTime "Ok" id value
  | .dynatraceIngestLinesInvalidCount value => ingestLinesSeries context endTime "Invalid" id value
  | .dynatraceIngestLinesDroppedCount value =>
    ingestLinesSeries context endTime "Dropped" (fun count : ℕ => .int count) value
  | .setupExecutionTime value => phaseSeries context endTime "setup" value
  | .fetchGCPDataExecutionTime value => phaseSeries context endTime "fetch_gcp_data" value
  | .pushToDynatraceExecutionTime value => phaseSeries context endTime "push_to_dynatrace" value
  | .dynatraceConnectivity value =>
    [context.createTimeseriesDatapoint selfMonitoringConnectivityMetricType
      (context.labels ++ [("reason".toList, connectivityName value)])
      [⟨endTime, .int64Value (.int 1)⟩]]
  | .loopTimeouts value =>
    [context.createTimeseriesDatapoint selfMonitoringLoopTimeoutsMetricType context.labels
      [⟨endTime, .int64Value (.int value)⟩]]

def createSfmTimeseriesDatapoints (sfmMetrics : List SfmMetric) : List TimeSeries :=
  sfmMetrics.flatMap (fun sfmMetric => sfmMetric.generateTimeseriesDatapoints context endTime)

end Series

/-- The values of `MetricsContext.sfm` that the pushes do not change. -/
structure CycleMeasures where
  gcpMetricRequestCount : OrderedDict Text ℕ
  setupExecutionTime : OrderedDict Text ℚ
  fetchGCPDataExecutionTime : OrderedDict Text ℚ
  pushToDynatraceExecutionTime : OrderedDict Text ℚ

def sfmMetrics (context : PushContext) (measures : CycleMeasures) : List SfmMetric :=
  [.dynatraceConnectivity context.connectivityMetric,
    .gcpMetricRequestCount measures.gcpMetricRequestCount,
    .dynatraceIngestLinesOkCount context.ingestLinesOkCount,
    .dynatraceIngestLinesInvalidCount context.ingestLinesInvalidCount,
    .dynatraceIngestLinesDroppedCount context.ingestLinesDroppedCount,
    .setupExecutionTime measures.setupExecutionTime,
    .fetchGCPDataExecutionTime measures.fetchGCPDataExecutionTime,
    .pushToDynatraceExecutionTime measures.pushToDynatraceExecutionTime,
    .dynatraceRequestCount context.requestCount]

section Conforms

variable {context : SfmContext} {endTime : Text}

theorem datapoint_conforms {metricType : Text} {labels : List (Text × Text)} {value : PointValue}
    {valueType : ValueType} {metricDescriptor : MetricDescriptor}
    (htype : metricDescriptor.type = some metricType)
    (hvalueType : metricDescriptor.valueType = some valueType.text)
    (hlabels : (labels.map Prod.fst).insertionSort (fun a b => a ≤ b) =
      extractLabelKeys metricDescriptor)
    (hfits : value.fits valueType = true) :
    (context.createTimeseriesDatapoint metricType labels [⟨endTime, value⟩] valueType).Conforms
      metricDescriptor where
  type := htype
  valueType := hvalueType
  labels := hlabels
  values := by
    intro point hpoint
    rw [List.mem_singleton.mp hpoint]
    exact hfits

theorem ingestLinesSeries_conforms {ν : Type} (status : String) (count : ν → Number)
    (value : OrderedDict Text ν) : ∀ series ∈ ingestLinesSeries context endTime status count value,
      ∃ metricDescriptor, (series.metricType, metricDescriptor) ∈ selfMonitoringMetricMap ∧
        series.Conforms metricDescriptor := by
  intro series hseries
  obtain ⟨entry, -, rfl⟩ := List.mem_map.mp hseries
  exact ⟨_, List.mem_of_getElem? (i := 1) rfl, datapoint_conforms rfl rfl rfl rfl⟩

theorem phaseSeries_conforms (phase : String) (value : OrderedDict Text ℚ) :
    ∀ series ∈ phaseSeries context endTime phase value,
      ∃ metricDescriptor, (series.metricType, metricDescriptor) ∈ selfMonitoringMetricMap ∧
        series.Conforms metricDescriptor := by
  intro series hseries
  obtain ⟨entry, -, rfl⟩ := List.mem_map.mp hseries
  exact ⟨_, List.mem_of_getElem? (i := 3) rfl, datapoint_conforms rfl rfl rfl rfl⟩

theorem sfmMetrics_conform (pushContext : PushContext) (measures : CycleMeasures) :
    ∀ series ∈ createSfmTimeseriesDatapoints context endTime (sfmMetrics pushContext measures),
      ∃ metricDescriptor, (series.metricType, metricDescriptor) ∈ selfMonitoringMetricMap ∧
        series.Conforms metricDescriptor := by
  intro series hseries
  obtain ⟨sfmMetric, hmem, hseries⟩ := List.mem_flatMap.mp hseries
  simp only [sfmMetrics, List.mem_cons, List.not_mem_nil, or_false] at hmem
  rcases hmem with rfl | rfl | rfl | rfl | rfl | rfl | rfl | rfl | rfl
  · rw [List.mem_singleton.mp hseries]
    exact ⟨_, List.mem_of_getElem? (i := 0) rfl, datapoint_conforms rfl rfl rfl rfl⟩
  · exact absurd hseries List.not_mem_nil
  · exact ingestLinesSeries_conforms "Ok" _ _ series hseries
  · exact ingestLinesSeries_conforms "Invalid" _ _ series hseries
  · exact ingestLinesSeries_conforms "Dropped" (fun count : ℕ => .int count) _ series hseries
  · exact phaseSeries_conforms "setup" _ series hseries
  · exact phaseSeries_conforms "fetch_gcp_data" _ series hseries
  · exact phaseSeries_conforms "push_to_dynatrace" _ series hseries
  · obtain ⟨entry, -, rfl⟩ := List.mem_map.mp hseries
    exact ⟨_, List.mem_of_getElem? (i := 2) rfl, datapoint_conforms rfl rfl rfl rfl⟩

end Conforms

section Distinct

variable {context : SfmContext} {endTime : Text}

/-- What Google Cloud tells the series of a request apart by. -/
def TimeSeries.identity (series : TimeSeries) : Text × List (Text × Text) :=
  (series.metricType, series.metricLabels)

def signatureOf (identity : Text × List (Text × Text)) : Text × Option Text × Option Text :=
  (identity.1, identity.2.lookup "status".toList, identity.2.lookup "phase".toList)

def SfmMetric.signature : SfmMetric → Text × Option Text × Option Text
  | .dynatraceRequestCount _ => (selfMonitoringRequestCountMetricType, none, none)
  | .gcpMetricRequestCount _ => ([], none, none)
  | .dynatraceIngestLinesOkCount _ => (selfMonitoringIngestLinesMetricType, some "Ok".toList, none)
  | .dynatraceIngestLinesInvalidCount _ =>
    (selfMonitoringIngestLinesMetricType, some "Invalid".toList, none)
  | .dynatraceIngestLinesDroppedCount _ =>
    (selfMonitoringIngestLinesMetricType, some "Dropped".toList, none)
  | .setupExecutionTime _ =>
    (selfMonitoringPhaseExecutionTimeMetricType, none, some "setup".toList)
  | .fetchGCPDataExecutionTime _ =>
    (selfMonitoringPhaseExecutionTimeMetricType, none, some "fetch_gcp_data".toList)
  | .pushToDynatraceExecutionTime _ =>
    (selfMonitoringPhaseExecutionTimeMetricType, none, some "push_to_dynatrace".toList)
  | .dynatraceConnectivity _ => (selfMonitoringConnectivityMetricType, none, none)
  | .loopTimeouts _ => (selfMonitoringLoopTimeoutsMetricType, none, none)

theorem signature_of_generated (sfmMetric : SfmMetric) :
    ∀ series ∈ sfmMetric.generateTimeseriesDatapoints context endTime,
      signatureOf series.identity = sfmMetric.signature := by
  intro series hseries
  cases sfmMetric with
  | gcpMetricRequestCount value => exact absurd hseries List.not_mem_nil
  | dynatraceConnectivity value =>
    rw [List.mem_singleton.mp hseries]
    rfl
  | loopTimeouts value =>
    rw [List.mem_singleton.mp hseries]
    rfl
  | _ =>
    obtain ⟨entry, -, rfl⟩ := List.mem_map.mp hseries
    rfl

theorem identities_nodup {ν : Type} {κ : Type} {value : OrderedDict κ ν}
    {series : κ × ν → TimeSeries} {labels : κ → Text × List (Text × Text)}
    (hseries : ∀ entry, (series entry).identity = labels entry.1)
    (hlabels : Function.Injective labels) :
    ((value.entries.map series).map TimeSeries.identity).Nodup := by
  have heq : (value.entries.map series).map TimeSeries.identity =
      (value.entries.map Prod.fst).map labels := by
    rw [List.map_map, List.map_map]
    apply List.map_congr_left
    intro entry _
    exact hseries entry
  rw [heq]
  exact value.nodup.map hlabels

theorem ofInt_injective {m n : ℕ} (h : Text.ofInt m = Text.ofInt n) : m = n := by
  have hback := congrArg (Nat.ofDigitChars 10 · 0) h
  simpa [Text.ofInt] using hback

theorem generated_nodup (sfmMetric : SfmMetric) :
    ((sfmMetric.generateTimeseriesDatapoints context endTime).map TimeSeries.identity).Nodup := by
  have hproject : ∀ (metricType : Text) (label : Text × Text), Function.Injective (fun key : Text =>
      (metricType, context.labels ++ [label, ("project_id".toList, key)])) := by
    intro metricType label key key' h
    simpa using h
  cases sfmMetric with
  | dynatraceRequestCount value =>
    have hstatus : Function.Injective (fun status : ℕ => (selfMonitoringRequestCountMetricType,
        ("response_code".toList, Text.ofInt status) :: context.labels)) := by
      intro status status' h
      apply ofInt_injective
      simpa using h
    exact identities_nodup (fun _ => rfl) hstatus
  | gcpMetricRequestCount value => exact List.nodup_nil
  | dynatraceConnectivity value => exact List.nodup_singleton _
  | loopTimeouts value => exact List.nodup_singleton _
  | dynatraceIngestLinesOkCount value => exact identities_nodup (fun _ => rfl) (hproject _ _)
  | dynatraceIngestLinesInvalidCount value => exact identities_nodup (fun _ => rfl) (hproject _ _)
  | dynatraceIngestLinesDroppedCount value => exact identities_nodup (fun _ => rfl) (hproject _ _)
  | setupExecutionTime value => exact identities_nodup (fun _ => rfl) (hproject _ _)
  | fetchGCPDataExecutionTime value => exact identities_nodup (fun _ => rfl) (hproject _ _)
  | pushToDynatraceExecutionTime value => exact identities_nodup (fun _ => rfl) (hproject _ _)

theorem identities_nodup_of_signatures {metrics : List SfmMetric}
    (h : (metrics.map SfmMetric.signature).Nodup) :
    ((createSfmTimeseriesDatapoints context endTime metrics).map TimeSeries.identity).Nodup := by
  rw [createSfmTimeseriesDatapoints, List.map_flatMap, List.nodup_flatMap]
  refine ⟨fun sfmMetric _ => generated_nodup sfmMetric, ?_⟩
  refine (List.pairwise_map.mp h).imp ?_
  intro first second hne identity hfirst hsecond
  obtain ⟨series, hseries, rfl⟩ := List.mem_map.mp hfirst
  obtain ⟨series', hseries', heq⟩ := List.mem_map.mp hsecond
  apply hne
  rw [← signature_of_generated first series hseries, ← heq,
    signature_of_generated second series' hseries']

theorem sfmMetrics_signatures (pushContext : PushContext) (measures : CycleMeasures) :
    ((sfmMetrics pushContext measures).map SfmMetric.signature).Nodup := by
  simp only [sfmMetrics, List.map_cons, List.map_nil, SfmMetric.signature]
  decide

end Distinct

section Totals

variable {context : SfmContext} {endTime : Text}

def PointValue.amount : PointValue → ℚ
  | .int64Value n => n.toRat.getD 0
  | .doubleValue x => x

def TimeSeries.amount (series : TimeSeries) : ℚ :=
  (series.points.map (fun point => point.value.amount)).sum

def ofProject (projectId : Text) (series : TimeSeries) : Bool :=
  series.metricType = selfMonitoringIngestLinesMetricType &&
    series.metricLabels.lookup "project_id".toList = some projectId

def ofStatus (status : ℕ) (series : TimeSeries) : Bool :=
  series.metricType = selfMonitoringRequestCountMetricType &&
    series.metricLabels.lookup "response_code".toList = some (Text.ofInt status)

def totalOf (p : TimeSeries → Bool) (series : List TimeSeries) : ℚ :=
  ((series.filter p).map TimeSeries.amount).sum

theorem totalOf_append (p : TimeSeries → Bool) (series series' : List TimeSeries) :
    totalOf p (series ++ series') = totalOf p series + totalOf p series' := by
  rw [totalOf, List.filter_append, List.map_append, List.sum_append, totalOf, totalOf]

theorem totalOf_none {p : TimeSeries → Bool} {series : List TimeSeries}
    (h : ∀ x ∈ series, p x = false) : totalOf p series = 0 := by
  have hfilter : series.filter p = [] := by
    rw [List.filter_eq_nil_iff]
    intro x hx
    simp [h x hx]
  rw [totalOf, hfilter]
  rfl

theorem totalOf_entries {κ ν : Type} [DecidableEq κ] {p : TimeSeries → Bool}
    {series : κ × ν → TimeSeries} {amount : ν → ℚ} (value : OrderedDict κ ν) (k : κ)
    (hp : ∀ entry, p (series entry) = decide (entry.1 = k))
    (hamount : ∀ entry, (series entry).amount = amount entry.2) :
    totalOf p (value.entries.map series) = ((value.get k).map amount).getD 0 := by
  rw [← OrderedDict.sum_entries_ite]
  induction value.entries with
  | nil => rfl
  | cons entry entries ih =>
    rw [totalOf] at ih
    rw [List.map_cons, List.map_cons, List.sum_cons, ← ih, totalOf]
    by_cases hk : entry.1 = k
    · rw [List.filter_cons_of_pos (by simp [hp, hk]), List.map_cons, List.sum_cons, hamount,
        if_pos hk]
    · rw [List.filter_cons_of_neg (by simp [hp, hk]), if_neg hk, zero_add]

theorem totalOf_of_type {p : TimeSeries → Bool} {metricType : Text} {series : List TimeSeries}
    (hp : ∀ x, p x = true → x.metricType = metricType)
    (h : ∀ x ∈ series, x.metricType ≠ metricType) : totalOf p series = 0 := by
  apply totalOf_none
  intro x hx
  rw [← Bool.not_eq_true]
  intro htrue
  exact h x hx (hp x htrue)

theorem type_of_ofProject {projectId : Text} (x : TimeSeries) (h : ofProject projectId x = true) :
    x.metricType = selfMonitoringIngestLinesMetricType := by
  rw [ofProject, Bool.and_eq_true] at h
  exact of_decide_eq_true h.1

theorem type_of_ofStatus {status : ℕ} (x : TimeSeries) (h : ofStatus status x = true) :
    x.metricType = selfMonitoringRequestCountMetricType := by
  rw [ofStatus, Bool.and_eq_true] at h
  exact of_decide_eq_true h.1

theorem totalOf_ingestLinesSeries {ν : Type} (status : String) (count : ν → Number)
    (value : OrderedDict Text ν) (projectId : Text) :
    totalOf (ofProject projectId) (ingestLinesSeries context endTime status count value) =
      ((value.get projectId).map (fun n => (count n).toRat.getD 0)).getD 0 := by
  apply totalOf_entries value projectId
  · intro entry
    change (decide (selfMonitoringIngestLinesMetricType = selfMonitoringIngestLinesMetricType) &&
      decide (some entry.1 = some projectId)) = _
    simp
  · intro entry
    exact add_zero _

theorem totalOf_requestCount (value : OrderedDict ℕ ℕ) (status : ℕ) :
    totalOf (ofStatus status)
        ((SfmMetric.dynatraceRequestCount value).generateTimeseriesDatapoints context endTime) =
      (((value.get status).getD 0 : ℕ) : ℚ) := by
  have htotal : totalOf (ofStatus status)
      ((SfmMetric.dynatraceRequestCount value).generateTimeseriesDatapoints context endTime) =
        ((value.get status).map (fun n : ℕ => (n : ℚ))).getD 0 := by
    apply totalOf_entries value status
    · intro entry
      change (decide (selfMonitoringRequestCountMetricType =
        selfMonitoringRequestCountMetricType) &&
          decide (some (Text.ofInt entry.1) = some (Text.ofInt status))) = _
      rw [Bool.eq_iff_iff]
      simp only [decide_true, Bool.true_and, decide_eq_true_eq, Option.some.injEq]
      exact ⟨ofInt_injective, fun h => by rw [h]⟩
    · intro entry
      exact add_zero _
  rw [htotal]
  cases value.get status <;> simp

theorem totalOf_createSfmTimeseriesDatapoints (p : TimeSeries → Bool) (metrics : List SfmMetric) :
    totalOf p (createSfmTimeseriesDatapoints context endTime metrics) =
      (metrics.map (fun sfmMetric =>
        totalOf p (sfmMetric.generateTimeseriesDatapoints context endTime))).sum := by
  induction metrics with
  | nil => rfl
  | cons sfmMetric metrics ih =>
    rw [createSfmTimeseriesDatapoints] at ih ⊢
    rw [List.flatMap_cons, totalOf_append, ih, List.map_cons, List.sum_cons]

theorem signature_type_ne {sfmMetric : SfmMetric} {metricType : Text}
    (h : sfmMetric.signature.1 ≠ metricType) :
    ∀ x ∈ sfmMetric.generateTimeseriesDatapoints context endTime, x.metricType ≠ metricType := by
  intro x hx heq
  apply h
  rw [← signature_of_generated sfmMetric x hx]
  exact heq

theorem getD_toRat (count : Option Number) :
    (count.map (fun n => (id n).toRat.getD 0)).getD 0 = (count.getD (.int 0)).toRat.getD 0 := by
  cases count with
  | none => simp [Number.toRat]
  | some n => rfl

theorem types_ne_ingestLines : ∀ metricType ∈ [[], selfMonitoringConnectivityMetricType,
    selfMonitoringPhaseExecutionTimeMetricType, selfMonitoringRequestCountMetricType],
      metricType ≠ selfMonitoringIngestLinesMetricType := by
  decide

theorem types_ne_requestCount : ∀ metricType ∈ [[], selfMonitoringConnectivityMetricType,
    selfMonitoringPhaseExecutionTimeMetricType, selfMonitoringIngestLinesMetricType],
      metricType ≠ selfMonitoringRequestCountMetricType := by
  decide

theorem totalOf_ingestLines {pushContext : PushContext} {measures : CycleMeasures}
    {projectId : Text} {lines : ℚ} (h : pushContext.ingestLines projectId = some lines) :
    totalOf (ofProject projectId)
        (createSfmTimeseriesDatapoints context endTime (sfmMetrics pushContext measures)) =
      lines := by
  have hother : ∀ sfmMetric : SfmMetric, sfmMetric.signature.1 ∈ [[],
      selfMonitoringConnectivityMetricType, selfMonitoringPhaseExecutionTimeMetricType,
        selfMonitoringRequestCountMetricType] →
          totalOf (ofProject projectId)
            (sfmMetric.generateTimeseriesDatapoints context endTime) = 0 :=
    fun sfmMetric hmem => totalOf_of_type type_of_ofProject
      (signature_type_ne (types_ne_ingestLines _ hmem))
  have hok : totalOf (ofProject projectId)
      ((SfmMetric.dynatraceIngestLinesOkCount
        pushContext.ingestLinesOkCount).generateTimeseriesDatapoints context endTime) = _ :=
    totalOf_ingestLinesSeries "Ok" id pushContext.ingestLinesOkCount projectId
  have hinvalid : totalOf (ofProject projectId)
      ((SfmMetric.dynatraceIngestLinesInvalidCount
        pushContext.ingestLinesInvalidCount).generateTimeseriesDatapoints context endTime) = _ :=
    totalOf_ingestLinesSeries "Invalid" id pushContext.ingestLinesInvalidCount projectId
  have hdropped : totalOf (ofProject projectId)
      ((SfmMetric.dynatraceIngestLinesDroppedCount
        pushContext.ingestLinesDroppedCount).generateTimeseriesDatapoints context endTime) =
          (((pushContext.ingestLinesDroppedCount.get projectId).getD 0 : ℕ) : ℚ) := by
    refine (totalOf_ingestLinesSeries "Dropped" (fun count : ℕ => .int count)
      pushContext.ingestLinesDroppedCount projectId).trans ?_
    cases pushContext.ingestLinesDroppedCount.get projectId <;> simp [Number.toRat]
  rw [totalOf_createSfmTimeseriesDatapoints]
  simp only [sfmMetrics, List.map_cons, List.map_nil, List.sum_cons, List.sum_nil]
  rw [hok, hinvalid, hdropped, getD_toRat, getD_toRat,
    hother (.dynatraceConnectivity _) (by simp [SfmMetric.signature]),
    hother (.gcpMetricRequestCount _) (by simp [SfmMetric.signature]),
    hother (.setupExecutionTime _) (by simp [SfmMetric.signature]),
    hother (.fetchGCPDataExecutionTime _) (by simp [SfmMetric.signature]),
    hother (.pushToDynatraceExecutionTime _) (by simp [SfmMetric.signature]),
    hother (.dynatraceRequestCount _) (by simp [SfmMetric.signature])]
  rw [PushContext.ingestLines] at h
  obtain ⟨counted, dropped, hcounted, hdrop, hlines⟩ := Option.map₂_eq_some_iff.mp h
  obtain ⟨ok, invalid, hok, hinvalid, hsum⟩ := Option.map₂_eq_some_iff.mp hcounted
  cases hdrop
  rw [hok, hinvalid, Option.getD_some, Option.getD_some, ← hlines, ← hsum]
  ring

theorem totalOf_responses (pushContext : PushContext) (measures : CycleMeasures) (status : ℕ) :
    totalOf (ofStatus status)
        (createSfmTimeseriesDatapoints context endTime (sfmMetrics pushContext measures)) =
      (((pushContext.requestCount.get status).getD 0 : ℕ) : ℚ) := by
  have hother : ∀ sfmMetric : SfmMetric, sfmMetric.signature.1 ∈ [[],
      selfMonitoringConnectivityMetricType, selfMonitoringPhaseExecutionTimeMetricType,
        selfMonitoringIngestLinesMetricType] →
          totalOf (ofStatus status)
            (sfmMetric.generateTimeseriesDatapoints context endTime) = 0 :=
    fun sfmMetric hmem => totalOf_of_type type_of_ofStatus
      (signature_type_ne (types_ne_requestCount _ hmem))
  rw [totalOf_createSfmTimeseriesDatapoints]
  simp only [sfmMetrics, List.map_cons, List.map_nil, List.sum_cons, List.sum_nil]
  rw [totalOf_requestCount, hother (.dynatraceConnectivity _) (by simp [SfmMetric.signature]),
    hother (.gcpMetricRequestCount _) (by simp [SfmMetric.signature]),
    hother (.dynatraceIngestLinesOkCount _) (by simp [SfmMetric.signature]),
    hother (.dynatraceIngestLinesInvalidCount _) (by simp [SfmMetric.signature]),
    hother (.dynatraceIngestLinesDroppedCount _) (by simp [SfmMetric.signature]),
    hother (.setupExecutionTime _) (by simp [SfmMetric.signature]),
    hother (.fetchGCPDataExecutionTime _) (by simp [SfmMetric.signature]),
    hother (.pushToDynatraceExecutionTime _) (by simp [SfmMetric.signature])]
  ring

end Totals

/-- What a polling cycle tells Google Cloud about itself, whatever its projects and its mode are and
in whatever order its pushes go on, when it is over and the bodies reported on each line: every
series is as its descriptor says and no two are of the same metric and labels; the accepted, invalid
and dropped lines of a project come to the lines of its batches that were dealt with; and the
requests under a status are the responses that came with it. -/
theorem polling_cycle_reported {Line Payload : Type} (S : IngestSettings Line Payload)
    {trace : List (PollingEvent Line)} {s : PollingState Line}
    (h : (pushSystem S).run trace = some s) (hbodies : (pushSystem S).Along (BodiesReport S) trace)
    (hover : s.AllReturned) (measures : CycleMeasures) (context : SfmContext) (endTime : Text) :
    (∀ series ∈ createSfmTimeseriesDatapoints context endTime (sfmMetrics s.context measures),
      ∃ metricDescriptor, (series.metricType, metricDescriptor) ∈ selfMonitoringMetricMap ∧
        series.Conforms metricDescriptor) ∧
    ((createSfmTimeseriesDatapoints context endTime (sfmMetrics s.context measures)).map
      TimeSeries.identity).Nodup ∧
    (∀ projectId, totalOf (ofProject projectId)
      (createSfmTimeseriesDatapoints context endTime (sfmMetrics s.context measures)) =
        s.returnedLines projectId) ∧
    ∀ status, totalOf (ofStatus status)
      (createSfmTimeseriesDatapoints context endTime (sfmMetrics s.context measures)) =
        ((trace.map (PollingEvent.responses status)).sum : ℕ) := by
  have haccounted := PollingState.accounted_of_run trace s h hbodies
  refine ⟨sfmMetrics_conform s.context measures,
    identities_nodup_of_signatures (sfmMetrics_signatures s.context measures), ?_, ?_⟩
  · intro projectId
    exact totalOf_ingestLines (haccounted.lines projectId)
  · intro status
    have hwaiting := PollingState.reading_of_allReturned ⟨trace, h⟩ hover status
    have hrequests := haccounted.requests status
    rw [hwaiting, add_zero] at hrequests
    rw [totalOf_responses, hrequests]

def localContext : SfmContext :=
  ⟨"owner".toList, "https://tenant".toList, "Local".toList, "us-east1".toList⟩

theorem polling_cycle_reported_dropped : ∃ s,
    (pushSystem twoAtATime).run cycleTrace = some s ∧ s.AllReturned ∧
    totalOf (ofStatus 413) (createSfmTimeseriesDatapoints localContext "end".toList
      (sfmMetrics s.context ⟨.empty, .empty, .empty, .empty⟩)) = 1 := by
  obtain ⟨s, hs⟩ : ∃ s, (pushSystem twoAtATime).run cycleTrace = some s := ⟨_, rfl⟩
  have hover : s.AllReturned := by
    cases hs
    intro call hcall
    rw [List.mem_singleton.mp hcall]
    rfl
  obtain ⟨-, -, -, hresponses⟩ := polling_cycle_reported twoAtATime hs cycleTrace_bodies hover
    ⟨.empty, .empty, .empty, .empty⟩ localContext "end".toList
  refine ⟨s, hs, hover, (hresponses 413).trans ?_⟩
  rfl

end GcpMonitor.SelfMonitoring
