import GcpMonitor.Entities.Topology

namespace GcpMonitor.Metrics

open Python Entities

structure ServiceGroupings where
  service : Option Text
  groupings : List Text

def noGroupingCategory : Text := "NO_GROUPING".toList

def groupingName (service : MonitoredService) (metric : Metric) : Option Text :=
  match service with
  | .extension service => some service.name
  | .autodiscovery service =>
    if metric.autodiscoveredMetric then
      match service.firstLinked metric with
      | some linked => some linked.name
      | none => service.metricsToResources.get metric.googleMetric
    else some service.service.name

def setGroupings (configuredServicesToGroup : List ServiceGroupings) (service : MonitoredService)
    (metric : Metric) : List Text :=
  let groupings := configuredServicesToGroup.flatMap (fun configured =>
    if configured.service = groupingName service metric then configured.groupings else [])
  if groupings = [] then [noGroupingCategory] else groupings

/-- `google_metric[:google_metric.find("/")]`; without a slash, `find` gives -1. -/
def apiOf (googleMetric : Text) : Text :=
  if googleMetric.contains '/' then googleMetric.takeWhile (fun c => c ≠ '/')
  else googleMetric.dropLast

structure IngestConfig where
  projectId : Text
  disabledApis : List Text
  excludedMetricsAndDimensions : List (Option ExcludedMetric)
  configuredServicesToGroup : List ServiceGroupings
  scopingProjectSupportEnabled : Bool

structure MetricFetch where
  metric : Metric
  grouping : Text

inductive MetricPlan where
  | excluded
  | elsewhere
  | apiDisabled (api : Text)
  | fetched (fetch : MetricFetch)

inductive ServicePlan where
  | disabled
  | noInstances
  | planned (metrics : List MetricPlan)

variable (config : IngestConfig)

def planMetric (metric : Metric) (grouping : Text) : MetricPlan :=
  if shouldExcludeMetric metric.googleMetric config.excludedMetricsAndDimensions then .excluded
  else if !metric.autodiscoveredMetric || metric.projectIds.contains config.projectId then
    let api := apiOf metric.googleMetric
    if config.disabledApis.contains api then .apiDisabled api else .fetched ⟨metric, grouping⟩
  else .elsewhere

def planService (service : MonitoredService) (topology : Option (List Entity)) : ServicePlan :=
  if !service.base.isEnabled then .disabled
  else if topology.elim false List.isEmpty then .noInstances
  else .planned (service.base.metrics.flatMap (fun metric =>
    (setGroupings config.configuredServicesToGroup service metric).map (planMetric config metric)))

/-- `fetch_ingest_lines_task` up to the fetches it prepares, service by service. -/
def fetchIngestLinesTask (R : ExtractorRuntime) (services : List ServiceTask) :
    List ServicePlan :=
  let topology :=
    if config.scopingProjectSupportEnabled then services.map (fun _ => none)
    else fetchTopology R services config.disabledApis
  (services.zip topology).map (fun entry => planService config entry.1.service entry.2)

def topologyCalls (R : ExtractorRuntime) (task : ServiceTask) : List CallOutcome :=
  (entitiesExtractors task.name).elim []
    (fun extractor => extractor.calls R task.service.base task.answers)

def FetchesTopology (task : ServiceTask) : Prop :=
  task.service.base.isEnabled = true ∧ config.scopingProjectSupportEnabled = false ∧
    (chosenExtractor config.disabledApis task).isSome = true

def NoInstancesReported (calls : List CallOutcome) : Prop :=
  (∀ call ∈ calls, call.succeeded = true) ∧ (calls.map CallOutcome.instances).sum = 0

/-- No exception leaves a request, and when a call fails or a page reports instances, there is a
page whose instances have been mapped. -/
def MapsWhatIsReported (calls : List CallOutcome) : Prop :=
  (∀ call ∈ calls, call.hasRaised = false) ∧
    ((∃ call ∈ calls, call.succeeded = false ∨ 0 < call.instances) →
      ∃ call ∈ calls, call.mapped ≠ [])

section

variable {config : IngestConfig} {R : ExtractorRuntime}

theorem planService_eq_noInstances_iff {service : MonitoredService}
    {topology : Option (List Entity)} :
    planService config service topology = .noInstances ↔
      service.base.isEnabled = true ∧ topology = some [] := by
  rw [planService]
  cases service.base.isEnabled with
  | false => simp
  | true =>
    cases topology with
    | none => simp
    | some entities => cases entities <;> simp

theorem fetchIngestLinesTask_get {services : List ServiceTask} (i : Fin services.length) :
    (fetchIngestLinesTask config R services)[i.val]? =
      some (planService config services[i].service
        (if config.scopingProjectSupportEnabled then none
          else (chosenExtractor config.disabledApis services[i]).map (fun extractor =>
            extractor.getAndUpload R services[i].service.base services[i].answers))) := by
  cases h : config.scopingProjectSupportEnabled <;>
    simp [fetchIngestLinesTask, fetchTopology, h]

theorem chosenExtractor_eq_some_iff {disabledApis : List Text} {task : ServiceTask}
    {extractor : Extractor} (h : chosenExtractor disabledApis task = some extractor) :
    entitiesExtractors task.name = some extractor :=
  (Option.filter_eq_some_iff.mp h).1

theorem noInstances_iff {services : List ServiceTask} (i : Fin services.length) :
    (fetchIngestLinesTask config R services)[i.val]? = some .noInstances ↔
      FetchesTopology config services[i] ∧
        ((∃ call ∈ topologyCalls R services[i], call.hasRaised = true) ∨
          ∀ call ∈ topologyCalls R services[i], call.entities = some []) := by
  rw [fetchIngestLinesTask_get, Option.some.injEq, planService_eq_noInstances_iff,
    FetchesTopology]
  cases config.scopingProjectSupportEnabled with
  | true => simp
  | false =>
    cases hchosen : chosenExtractor config.disabledApis services[i] with
    | none => simp
    | some extractor =>
      rw [topologyCalls, chosenExtractor_eq_some_iff hchosen, Option.elim_some,
        ← getAndUpload_eq_nil_iff]
      simp

theorem mapped_eq_nil_of_entities {call : CallOutcome} (h : call.entities = some []) :
    call.mapped = [] := by
  cases call <;> simp_all [CallOutcome.entities, CallOutcome.mapped]

theorem hasRaised_of_succeeded {call : CallOutcome} (h : call.succeeded = true) :
    call.hasRaised = false := by
  cases call <;> simp_all [CallOutcome.succeeded, CallOutcome.hasRaised]

theorem entities_of_hasRaised {call : CallOutcome} (h : call.hasRaised = false) :
    call.entities = some call.mapped := by
  cases call <;> simp_all [CallOutcome.entities, CallOutcome.hasRaised]

theorem noInstancesReported_iff {calls : List CallOutcome} :
    NoInstancesReported calls ↔
      ¬ ∃ call ∈ calls, call.succeeded = false ∨ 0 < call.instances := by
  simp only [NoInstancesReported, List.sum_eq_zero_iff_forall_eq_nat, List.mem_map, not_exists,
    not_and, not_or, Nat.pos_iff_ne_zero, not_not, Bool.not_eq_false]
  constructor
  · rintro ⟨hsucceeded, hzero⟩ call hcall
    exact ⟨hsucceeded call hcall, hzero _ ⟨call, hcall, rfl⟩⟩
  · intro h
    constructor
    · intro call hcall
      exact (h call hcall).1
    · rintro _ ⟨call, hcall, rfl⟩
      exact (h call hcall).2

theorem skipped_only_without_instances_iff (R : ExtractorRuntime) (config : IngestConfig)
    (services : List ServiceTask) (i : Fin services.length) :
    ((fetchIngestLinesTask config R services)[i.val]? = some .noInstances →
        NoInstancesReported (topologyCalls R services[i])) ↔
      (FetchesTopology config services[i] → MapsWhatIsReported (topologyCalls R services[i])) := by
  rw [noInstances_iff]
  constructor
  · intro hskipped hfetches
    have hraised : ∀ call ∈ topologyCalls R services[i], call.hasRaised = false := by
      intro call hcall
      by_contra hraised
      rw [Bool.not_eq_false] at hraised
      have hreported := hskipped ⟨hfetches, .inl ⟨call, hcall, hraised⟩⟩
      rw [hasRaised_of_succeeded (hreported.1 call hcall)] at hraised
      contradiction
    refine ⟨hraised, ?_⟩
    intro hreports
    by_contra hmapped
    simp only [not_exists, not_and, not_not] at hmapped
    refine noInstancesReported_iff.mp (hskipped ⟨hfetches, .inr ?_⟩) hreports
    intro call hcall
    rw [entities_of_hasRaised (hraised call hcall), hmapped call hcall]
  · rintro hmaps ⟨hfetches, hempty⟩
    obtain ⟨hraised, hmapped⟩ := hmaps hfetches
    rcases hempty with ⟨call, hcall, hcallRaised⟩ | hempty
    · rw [hraised call hcall] at hcallRaised
      contradiction
    · rw [noInstancesReported_iff]
      intro hreports
      obtain ⟨call, hcall, hne⟩ := hmapped hreports
      exact hne (mapped_eq_nil_of_entities (hempty call hcall))

end

def pubsubService : GCPService where
  name := "pubsub_subscription".toList
  featureSet := "default_metrics".toList
  technologyName := "N/A".toList
  dimensions := []
  metrics := []
  activation := .map []
  minSamplePeriodOverride := 0
  monitoringFilter := []
  isEnabled := true
  extensionName := "com.dynatrace.extension.google-pubsub".toList
  autodiscoveryEnabled := true

def oneProject : IngestConfig where
  projectId := "p".toList
  disabledApis := []
  excludedMetricsAndDimensions := []
  configuredServicesToGroup := []
  scopingProjectSupportEnabled := false

def refusedTask : ServiceTask where
  service := .extension pubsubService
  answers := ⟨.networkError, fun _ => [.page 403 (.map [])]⟩

theorem failed_topology_skips_service :
    ¬ ∀ (R : ExtractorRuntime) (config : IngestConfig) (services : List ServiceTask)
      (i : Fin services.length),
      (fetchIngestLinesTask config R services)[i.val]? = some .noInstances →
        NoInstancesReported (topologyCalls R services[i]) := by
  intro hclaim
  have hextractor : entitiesExtractors refusedTask.name = some .pubsubSubscription := by
    decide +kernel
  have hchosen : (chosenExtractor oneProject.disabledApis refusedTask).isSome = true := by
    decide +kernel
  have hcalls : topologyCalls extractorRuntime refusedTask = [.failed] := by
    rw [topologyCalls, hextractor]
    rfl
  have hskipped : (fetchIngestLinesTask oneProject extractorRuntime [refusedTask])[0]? =
      some .noInstances := by
    refine (noInstances_iff (0 : Fin [refusedTask].length)).mpr ⟨⟨rfl, rfl, hchosen⟩, .inr ?_⟩
    intro call hcall
    change call ∈ topologyCalls extractorRuntime refusedTask at hcall
    rw [hcalls, List.mem_singleton] at hcall
    rw [hcall]
    rfl
  have hreported := hclaim extractorRuntime oneProject [refusedTask] 0 hskipped
  change NoInstancesReported (topologyCalls extractorRuntime refusedTask) at hreported
  rw [hcalls] at hreported
  exact absurd (hreported.1 _ List.mem_cons_self) (by decide)

end GcpMonitor.Metrics
