import GcpMonitor.Autodiscovery.Descriptors
import GcpMonitor.Library.ExceptList
import GcpMonitor.Library.ListBlocks
import GcpMonitor.Metrics.MetadataLines
import GcpMonitor.Metrics.PushIngestLines

namespace GcpMonitor.Autodiscovery

open Python Metrics TransitionSystem ListBlocks ExceptList

def metadataOf (metric : Metric) : MetricMetadata where
  metricName := metric.dynatraceName
  metricType := metric.dynatraceMetricType
  metricDisplayName := metric.name
  metricDescription := metric.description
  metricUnit := metric.unit.getD []

theorem contained_convertedUnit (unit : Text) (n : ℕ) :
    Contained ((GCPMetricDescriptor.convertedUnit unit).take n) := by
  have hunits : gcpUnitConversionMap.all (fun entry => entry.2.toList.all
      (fun c => c ≠ '\r' && c ≠ '\n' && c ≠ '"' && c ≠ '\\')) = true := by decide +kernel
  have hplain : Plain (GCPMetricDescriptor.convertedUnit unit) := by
    unfold GCPMetricDescriptor.convertedUnit
    cases hfind : gcpUnitConversionMap.find? (fun entry => entry.1.toList = unit) with
    | none => exact plain_of_all (by decide +kernel)
    | some entry =>
      exact plain_of_all (List.all_eq_true.mp hunits entry (List.mem_of_find?_eq_some hfind))
  exact (hplain.take n).contained

theorem unit_of_create {item : MetricDescriptorItem} {descriptor : GCPMetricDescriptor}
    (h : GCPMetricDescriptor.create item = .ok descriptor) :
    descriptor.gcpOptions.unit = GCPMetricDescriptor.convertedUnit (item.unit.getD []) := by
  obtain ⟨_, -, h⟩ := bind_eq_ok_iff.mp h
  obtain ⟨_, -, h⟩ := bind_eq_ok_iff.mp h
  obtain ⟨_, -, h⟩ := bind_eq_ok_iff.mp h
  obtain ⟨_, -, h⟩ := bind_eq_ok_iff.mp h
  cases h
  rfl

theorem discovered_textsContained_iff {limits : MetadataLimits} {item : MetricDescriptorItem}
    {descriptor : GCPMetricDescriptor} (h : GCPMetricDescriptor.create item = .ok descriptor)
    (projectIds : List Text) :
    TextsContained limits (metadataOf (descriptor.metric projectIds)) ↔
      Contained (descriptor.name.take limits.allowedMetricDisplayNameLength) ∧
        Contained (Text.replace (descriptor.description.take
          limits.allowedMetricDescriptionLength) '"' []) := by
  have hunit : (metadataOf (descriptor.metric projectIds)).metricUnit =
      GCPMetricDescriptor.convertedUnit (item.unit.getD []) := unit_of_create h
  constructor
  · rintro ⟨hname, hdescription, -⟩
    exact ⟨hname, hdescription⟩
  · rintro ⟨hname, hdescription⟩
    refine ⟨hname, hdescription, ?_⟩
    rw [hunit]
    exact contained_convertedUnit _ _

abbrev SentNames := OrderedDict Text Unit

def addMetadata (collected : List MetricMetadata × SentNames) (metric : Metric) :
    List MetricMetadata × SentNames :=
  if collected.2.keys.contains metric.dynatraceName then collected
  else (collected.1 ++ [metadataOf metric], collected.2.set metric.dynatraceName ())

def collectMetadata (metrics : OrderedDict Text (List Metric))
    (previouslyDiscoveredMetrics : SentNames) : List MetricMetadata × SentNames :=
  metrics.values.flatten.foldl addMetadata ([], previouslyDiscoveredMetrics)

/-- A cycle of autodiscovery: the metrics it discovers, the context it pushes with, and what
happens during the push. A cycle that fails before it sends has discovered nothing. -/
structure DiscoveryCycle where
  metrics : OrderedDict Text (List Metric)
  context : PushContext
  pushTrace : List CallEvent

def DiscoveryCycle.discovered (cycle : DiscoveryCycle) : List Text :=
  cycle.metrics.values.flatten.map Metric.dynatraceName

variable {Payload : Type} (S : IngestSettings MetadataIngestLine Payload)

namespace DiscoveryCycle

variable (cycle : DiscoveryCycle) (previouslyDiscoveredMetrics : SentNames)

def metadata : List MetricMetadata :=
  (collectMetadata cycle.metrics previouslyDiscoveredMetrics).1

def lines : List MetadataIngestLine :=
  (cycle.metadata previouslyDiscoveredMetrics).map MetadataIngestLine.init

def pushStart : PollingState MetadataIngestLine where
  context := cycle.context
  calls :=
    if cycle.metadata previouslyDiscoveredMetrics = [] then []
    else [Call.start S cycle.context "autodiscovery-metadata".toList
      (cycle.lines previouslyDiscoveredMetrics)]

def pushReturns : Bool :=
  ((pushSystem S).runFrom (cycle.pushStart S previouslyDiscoveredMetrics)
    (cycle.pushTrace.map (.of 0))).any
      (fun s => s.calls.all (fun call => call.result.isSome))

def answeredOk (i : ℕ) : CallEvent → Bool
  | .resume j (.response status _) => j = i && 200 ≤ status && status ≤ 299
  | _ => false

def acceptedBatches : List (List MetadataIngestLine) :=
  ((makeBatches S.metricIngestBatchSize
    (cycle.lines previouslyDiscoveredMetrics)).zipIdx.filter (fun batch =>
      cycle.pushTrace.any (answeredOk batch.2))).map Prod.fst

def pushed : List Text :=
  (cycle.metadata previouslyDiscoveredMetrics).map MetricMetadata.metricName

def accepted : List Text :=
  (cycle.acceptedBatches S previouslyDiscoveredMetrics).flatten.map MetadataIngestLine.metricName

end DiscoveryCycle

/-- What there is to say of a cycle that is over: the names of the metrics it discovered, of those
whose lines it pushed, and of those whose lines the server took. -/
structure PastCycle where
  discovered : List Text
  pushed : List Text
  accepted : List Text

structure MetadataState where
  lastAutodiscoveredMetricListNames : SentNames
  history : List PastCycle

namespace MetadataState

def step (s : MetadataState) (cycle : DiscoveryCycle) : Option MetadataState :=
  let names := s.lastAutodiscoveredMetricListNames
  if cycle.pushReturns S names then
    some {
      lastAutodiscoveredMetricListNames := (collectMetadata cycle.metrics names).2
      history := s.history ++ [⟨cycle.discovered, cycle.pushed names, cycle.accepted S names⟩] }
  else none

end MetadataState

def metadataSystem : System MetadataState DiscoveryCycle where
  init := ⟨.empty, []⟩
  step := MetadataState.step S

structure SentUntilAccepted (s : MetadataState) : Prop where
  recorded : ∀ name ∈ s.lastAutodiscoveredMetricListNames.keys,
    ∃ past ∈ s.history, name ∈ past.accepted
  included : ∀ earlier past later, s.history = earlier ++ past :: later →
    ∀ name ∈ past.discovered, (∀ before ∈ earlier, name ∉ before.accepted) → name ∈ past.pushed
  never_again : ∀ earlier past later, s.history = earlier ++ past :: later →
    ∀ before ∈ earlier, ∀ name ∈ before.accepted, name ∉ past.pushed

/-- The server takes the line of every metric that the cycle pushes because the record does not
have it yet. -/
def FirstPushAccepted (s : MetadataState) (cycle : DiscoveryCycle) : Prop :=
  ∀ name ∈ cycle.discovered, name ∉ s.lastAutodiscoveredMetricListNames.keys →
    name ∈ cycle.accepted S s.lastAutodiscoveredMetricListNames

def AllAccepted (s : MetadataState) : Prop :=
  ∀ past ∈ s.history, ∀ name ∈ past.pushed, name ∈ past.accepted

structure RecordsPushed (s : MetadataState) : Prop where
  names : ∀ name, name ∈ s.lastAutodiscoveredMetricListNames.keys ↔
    ∃ past ∈ s.history, name ∈ past.pushed
  discovered : ∀ past ∈ s.history, ∀ name ∈ past.discovered,
    name ∈ s.lastAutodiscoveredMetricListNames.keys
  pushed : ∀ earlier past later, s.history = earlier ++ past :: later →
    ∀ name, name ∈ past.pushed ↔
      name ∈ past.discovered ∧ ∀ before ∈ earlier, name ∉ before.pushed
  accepted : ∀ past ∈ s.history, ∀ name ∈ past.accepted, name ∈ past.pushed

theorem mem_foldl_addMetadata (metrics : List Metric) (start : List MetricMetadata × SentNames)
    (name : Text) :
    (name ∈ (metrics.foldl addMetadata start).2.keys ↔
        name ∈ start.2.keys ∨ name ∈ metrics.map Metric.dynatraceName) ∧
      (name ∈ (metrics.foldl addMetadata start).1.map MetricMetadata.metricName ↔
        name ∈ start.1.map MetricMetadata.metricName ∨
          name ∈ metrics.map Metric.dynatraceName ∧ name ∉ start.2.keys) := by
  induction metrics generalizing start with
  | nil => simp
  | cons metric metrics ih =>
    obtain ⟨hkeys, hnames⟩ := ih (addMetadata start metric)
    rw [List.foldl_cons, hkeys, hnames, addMetadata, List.map_cons, List.mem_cons]
    simp only [List.contains_iff_mem]
    by_cases hknown : metric.dynatraceName ∈ start.2.keys
    · simp only [if_pos hknown]
      constructor
      · constructor
        · rintro (h | h)
          · exact .inl h
          · exact .inr (.inr h)
        · rintro (h | rfl | h)
          · exact .inl h
          · exact .inl hknown
          · exact .inr h
      · constructor
        · rintro (h | ⟨h, hnew⟩)
          · exact .inl h
          · exact .inr ⟨.inr h, hnew⟩
        · rintro (h | ⟨rfl | h, hnew⟩)
          · exact .inl h
          · exact absurd hknown hnew
          · exact .inr ⟨h, hnew⟩
    · simp only [if_neg hknown, OrderedDict.mem_keys_set, List.map_append, List.map_singleton,
        List.mem_append, List.mem_singleton]
      change (_ ↔ _) ∧ ((_ ∨ name = metric.dynatraceName) ∨ _ ↔ _)
      by_cases hname : name = metric.dynatraceName
      · subst hname
        simp [hknown]
      · simp [hname]

variable {S}

theorem DiscoveryCycle.mem_pushed (cycle : DiscoveryCycle) (names : SentNames) (name : Text) :
    name ∈ cycle.pushed names ↔ name ∈ cycle.discovered ∧ name ∉ names.keys := by
  rw [pushed, metadata, collectMetadata, (mem_foldl_addMetadata _ _ name).2, discovered]
  simp

theorem mem_names_collectMetadata (cycle : DiscoveryCycle) (names : SentNames) (name : Text) :
    name ∈ (collectMetadata cycle.metrics names).2.keys ↔
      name ∈ names.keys ∨ name ∈ cycle.discovered :=
  (mem_foldl_addMetadata _ _ name).1

theorem DiscoveryCycle.pushed_of_accepted {cycle : DiscoveryCycle} {names : SentNames}
    {name : Text} (h : name ∈ cycle.accepted S names) : name ∈ cycle.pushed names := by
  obtain ⟨line, hline, rfl⟩ := List.mem_map.mp h
  obtain ⟨batch, hbatch, hline⟩ := List.mem_flatten.mp hline
  obtain ⟨⟨batch', i⟩, hfilter, rfl⟩ := List.mem_map.mp hbatch
  have hmem : batch' ∈ makeBatches S.metricIngestBatchSize (cycle.lines names) :=
    (List.mem_zipIdx' (List.mem_of_mem_filter hfilter)).2 ▸ List.getElem_mem _
  have hsent : line ∈ cycle.lines names := by
    rw [← makeBatches_flatten S.metricIngestBatchSize (cycle.lines names)]
    exact List.mem_flatten.mpr ⟨batch', hmem, hline⟩
  obtain ⟨metadata, hmetadata, rfl⟩ := List.mem_map.mp hsent
  exact List.mem_map.mpr ⟨metadata, hmetadata, rfl⟩

namespace MetadataState

variable {s t : MetadataState} {cycle : DiscoveryCycle}

theorem step_cases (h : s.step S cycle = some t) :
    t.lastAutodiscoveredMetricListNames =
        (collectMetadata cycle.metrics s.lastAutodiscoveredMetricListNames).2 ∧
      t.history = s.history ++ [⟨cycle.discovered,
        cycle.pushed s.lastAutodiscoveredMetricListNames,
        cycle.accepted S s.lastAutodiscoveredMetricListNames⟩] := by
  obtain ⟨-, heq⟩ := Option.ite_none_right_eq_some.mp h
  cases heq
  exact ⟨rfl, rfl⟩

theorem step_recordsPushed (hs : RecordsPushed s) (h : s.step S cycle = some t) :
    RecordsPushed t := by
  obtain ⟨hnames, hhistory⟩ := step_cases h
  constructor
  · intro name
    rw [hnames, hhistory, mem_names_collectMetadata]
    simp only [List.mem_append, List.mem_singleton, or_and_right, exists_or, exists_eq_left,
      cycle.mem_pushed, ← hs.names]
    by_cases hname : name ∈ s.lastAutodiscoveredMetricListNames.keys <;> simp [hname]
  · intro past hpast name hname
    rw [hnames, mem_names_collectMetadata]
    rw [hhistory, List.mem_append, List.mem_singleton] at hpast
    rcases hpast with hpast | rfl
    · exact .inl (hs.discovered past hpast name hname)
    · exact .inr hname
  · intro earlier past later hsplit name
    rw [hhistory] at hsplit
    rcases snoc_eq_split hsplit with ⟨rfl, rfl⟩ | ⟨later', hbefore⟩
    · rw [cycle.mem_pushed, hs.names]
      simp
    · exact hs.pushed earlier past later' hbefore name
  · intro past hpast name hname
    rw [hhistory, List.mem_append, List.mem_singleton] at hpast
    rcases hpast with hpast | rfl
    · exact hs.accepted past hpast name hname
    · exact DiscoveryCycle.pushed_of_accepted hname

end MetadataState

theorem recordsPushed_of_run {trace : List DiscoveryCycle} {s : MetadataState}
    (hrun : (metadataSystem S).run trace = some s) : RecordsPushed s := by
  refine System.invariant _ RecordsPushed ?_ ?_ ⟨trace, hrun⟩
  · exact ⟨by simp [metadataSystem], by simp [metadataSystem], by simp [metadataSystem],
      by simp [metadataSystem]⟩
  · intro s e t hs hstep
    exact MetadataState.step_recordsPushed hs hstep

theorem RecordsPushed.pushed_once {s : MetadataState} (hs : RecordsPushed s)
    {past other : PastCycle} (hpast : past ∈ s.history) (hother : other ∈ s.history) {name : Text}
    (hname : name ∈ past.pushed) (hagain : name ∈ other.pushed) : past = other := by
  obtain ⟨earlier, later, hsplit⟩ := List.append_of_mem hpast
  obtain ⟨earlier', later', hsplit'⟩ := List.append_of_mem hother
  rcases split_cases (hsplit.symm.trans hsplit') with hbefore | hbefore | hsame
  · exact absurd hname (((hs.pushed _ _ _ hsplit' name).mp hagain).2 past hbefore)
  · exact absurd hagain (((hs.pushed _ _ _ hsplit name).mp hname).2 other hbefore)
  · exact hsame

theorem RecordsPushed.sentUntilAccepted_iff {s : MetadataState} (hs : RecordsPushed s) :
    SentUntilAccepted s ↔ AllAccepted s := by
  constructor
  · intro hsent past hpast name hname
    obtain ⟨other, hother, haccepted⟩ :=
      hsent.recorded name ((hs.names name).mpr ⟨past, hpast, hname⟩)
    rw [hs.pushed_once hpast hother hname (hs.accepted other hother name haccepted)]
    exact haccepted
  · intro hall
    constructor
    · intro name hname
      obtain ⟨past, hpast, hpushed⟩ := (hs.names name).mp hname
      exact ⟨past, hpast, hall past hpast name hpushed⟩
    · intro earlier past later hsplit name hname hnever
      refine (hs.pushed earlier past later hsplit name).mpr ⟨hname, ?_⟩
      intro before hbefore hpushed
      have hmem : before ∈ s.history := hsplit ▸ List.mem_append_left _ hbefore
      exact hnever before hbefore (hall before hmem name hpushed)
    · intro earlier past later hsplit before hbefore name haccepted hpushed
      have hmem : before ∈ s.history := hsplit ▸ List.mem_append_left _ hbefore
      exact ((hs.pushed earlier past later hsplit name).mp hpushed).2 before hbefore
        (hs.accepted before hmem name haccepted)

theorem allAccepted_iff_along {trace : List DiscoveryCycle} {s : MetadataState}
    (hrun : (metadataSystem S).run trace = some s) :
    AllAccepted s ↔ (metadataSystem S).Along (FirstPushAccepted S) trace := by
  induction trace using List.reverseRecOn generalizing s with
  | nil =>
    cases hrun
    refine iff_of_true ?_ (System.along_nil _)
    intro past hpast
    contradiction
  | append_singleton trace cycle ih =>
    obtain ⟨before, hbefore, hstep⟩ := System.run_snoc_some _ hrun
    obtain ⟨-, hhistory⟩ := MetadataState.step_cases hstep
    have hlast : FirstPushAccepted S before cycle ↔
        ∀ name ∈ cycle.pushed before.lastAutodiscoveredMetricListNames,
          name ∈ cycle.accepted S before.lastAutodiscoveredMetricListNames := by
      simp only [FirstPushAccepted, cycle.mem_pushed, and_imp]
    rw [System.along_snoc, ← ih hbefore, hbefore]
    simp only [AllAccepted, hhistory, Option.some.injEq, forall_eq', hlast, List.mem_append,
      List.mem_singleton, or_imp, forall_and, forall_eq]

theorem sent_until_accepted_iff {trace : List DiscoveryCycle} {s : MetadataState}
    (hrun : (metadataSystem S).run trace = some s) :
    SentUntilAccepted s ↔ (metadataSystem S).Along (FirstPushAccepted S) trace :=
  (recordsPushed_of_run hrun).sentUntilAccepted_iff.trans (allAccepted_iff_along hrun)

def metadataSettings : IngestSettings MetadataIngestLine Unit where
  payload := fun _ => .ok ()
  float := fun _ => none
  printable := fun _ _ => true
  dynatraceUrl := "https://environment".toList
  metricIngestBatchSize := 1000
  metricIngestConcurrentPushes := 1

def uptimeMetric : Metric :=
  Metric.init {
    name := some "Uptime".toList
    key := some "cloud.gcp.uptime".toList
    value := some "metric:compute.googleapis.com/instance/uptime".toList
    type := some "gauge".toList
    description := none
    gcpOptions := none
    dimensions := none } 0 true []

def uptimeCycle (status : ℕ) (answer : List CallEvent) : DiscoveryCycle where
  metrics := OrderedDict.empty.set "gce_instance".toList [uptimeMetric]
  context := .initial
  pushTrace := [.next 0, .resume 0 (.response status none)] ++ answer ++ [.complete]

theorem run_single {cycle : DiscoveryCycle} (h : cycle.pushReturns S .empty = true) :
    (metadataSystem S).run [cycle] = some {
      lastAutodiscoveredMetricListNames := (collectMetadata cycle.metrics .empty).2
      history := [⟨cycle.discovered, cycle.pushed .empty, cycle.accepted S .empty⟩] } := by
  have hstep : (metadataSystem S).run [cycle] =
      (MetadataState.step S (metadataSystem S).init cycle).bind some := rfl
  rw [hstep, MetadataState.step]
  exact congrArg (fun s => Option.bind s some) (if_pos h)

theorem sent_until_accepted_accepted :
    ∃ s, (metadataSystem metadataSettings).run [uptimeCycle 202 [.resume 0 (.body none)]] =
      some s ∧ SentUntilAccepted s := by
  have hreturns : (uptimeCycle 202 [.resume 0 (.body none)]).pushReturns metadataSettings .empty =
      true := by
    decide +kernel
  refine ⟨_, run_single hreturns, ?_⟩
  refine (sent_until_accepted_iff (run_single hreturns)).mpr ?_
  rw [System.along_singleton]
  unfold FirstPushAccepted
  decide +kernel

theorem refused_metadata_counts_as_sent :
    ¬ ∀ (S : IngestSettings MetadataIngestLine Unit) (trace : List DiscoveryCycle)
      (s : MetadataState), (metadataSystem S).run trace = some s → SentUntilAccepted s := by
  intro hclaim
  have hreturns : (uptimeCycle 401 []).pushReturns metadataSettings .empty = true := by
    decide +kernel
  have hrun := run_single hreturns
  have haccepted := (allAccepted_iff_along hrun).mp
    ((recordsPushed_of_run hrun).sentUntilAccepted_iff.mp (hclaim _ _ _ hrun))
  rw [System.along_singleton] at haccepted
  revert haccepted
  unfold FirstPushAccepted
  decide +kernel

end GcpMonitor.Autodiscovery
