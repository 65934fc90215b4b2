import GcpMonitor.Autodiscovery.Discovery
import Mathlib.Data.Finset.Max

namespace GcpMonitor.Autodiscovery

open Python Metrics ExceptList

def googleMetricOf (type : Text) : Text := type.replaceAll "metric:".toList []

def listedTypes (items : List MetricDescriptorItem) : List Text :=
  items.map (fun item => item.type.getD [])

def includedDescriptors (context : AutodiscoveryContext) (inputs : DiscoveryInputs)
    (autodiscoveryResources : ResourceLinkings) (projectId : Text) : List GCPMetricDescriptor :=
  (listing (inputs.responses projectId)).filterMap
    (included context.selection autodiscoveryResources.keys)

def newDescriptors (context : AutodiscoveryContext) (inputs : DiscoveryInputs)
    (autodiscoveryResources : ResourceLinkings) (projectId : Text) : List GCPMetricDescriptor :=
  (includedDescriptors context inputs autodiscoveryResources projectId).filter
    (isNew autodiscoveryResources)

def fetchedPairs (metrics : List Metric) : List (Text × Text) :=
  metrics.flatMap (fun metric =>
    metric.projectIds.map (fun projectId => (metric.googleMetric, projectId)))

def FetchedOnce (metrics : List Metric) (googleMetric projectId : Text) : Prop :=
  ∃ before metric after, metrics = before ++ metric :: after ∧
    metric.googleMetric = googleMetric ∧ metric.projectIds.count projectId = 1 ∧
      ∀ other ∈ before ++ after, other.googleMetric = googleMetric → projectId ∉ other.projectIds

/-- What a project lists is fetched there exactly once, under the type it is listed with, and in no
project that does not list the type. -/
def FetchedOncePerProject (context : AutodiscoveryContext) (inputs : DiscoveryInputs)
    (autodiscoveryResources : ResourceLinkings) (projectIds : List Text)
    (result : AutodiscoveryResult) : Prop :=
  ∀ projectId ∈ projectIds,
    ∀ descriptor ∈ newDescriptors context inputs autodiscoveryResources projectId,
      FetchedOnce result.metrics descriptor.value projectId ∧
      ∀ other, descriptor.value ∉ listedTypes (listing (inputs.responses other)) →
        ∀ metric ∈ result.metrics, metric.googleMetric = descriptor.value →
          other ∉ metric.projectIds

section

variable {context : AutodiscoveryContext} {inputs : DiscoveryInputs}
  {autodiscoveryResources : ResourceLinkings}

theorem metrics_groupByResource_perm
    (discovered : OrderedDict GCPMetricDescriptor (List Text)) :
    (groupByResource autodiscoveryResources discovered).values.flatten.Perm
      ((discovered.entries.filter (fun entry => isNew autodiscoveryResources entry.1)).map
        (fun entry => entry.1.metric entry.2)) := by
  rw [OrderedDict.flatten_values, groupByResource]
  have hgroup := (OrderedDict.pairs_group_perm
    (fun entry : GCPMetricDescriptor × List Text => monitoredResource entry.1)
    (fun entry => entry.1.metric entry.2)
    (discovered.entries.filter (fun entry => isNew autodiscoveryResources entry.1))).map Prod.snd
  simpa [Function.comp_def] using hgroup

theorem fetchedPairs_groupByResource (discovered : OrderedDict GCPMetricDescriptor (List Text)) :
    (fetchedPairs (groupByResource autodiscoveryResources discovered).values.flatten).Perm
      ((discovered.pairs.filter (fun pair => isNew autodiscoveryResources pair.1)).map
        (fun pair => (googleMetricOf pair.1.value, pair.2))) := by
  have hpairs := OrderedDict.flatMap_filter_entries discovered (isNew autodiscoveryResources)
    (fun descriptor projectId => (googleMetricOf descriptor.value, projectId))
  rw [← hpairs]
  refine ((metrics_groupByResource_perm discovered).flatMap_right _).trans ?_
  rw [List.flatMap_map]
  exact List.Perm.refl _

theorem fetchedPairs_perm {result : AutodiscoveryResult} {projectIds : List Text}
    (hprojects : inputs.projectIds = .ok projectIds)
    (h : runAutodiscovery context inputs autodiscoveryResources = .ok result) :
    (fetchedPairs result.metrics).Perm (projectIds.flatMap (fun projectId =>
      (newDescriptors context inputs autodiscoveryResources projectId).map
        (fun descriptor => (googleMetricOf descriptor.value, projectId)))) := by
  obtain ⟨projectIds', hprojects', h⟩ := bind_eq_ok_iff.mp h
  obtain ⟨resourceDimensions, -, h⟩ := bind_eq_ok_iff.mp h
  obtain ⟨-, -, h⟩ := bind_eq_ok_iff.mp h
  rw [hprojects] at hprojects'
  cases hprojects'
  cases h
  refine (fetchedPairs_groupByResource _).trans ?_
  refine (((OrderedDict.pairs_group_perm FetchMetricDescriptorsResult.metricDescriptor
    FetchMetricDescriptorsResult.projectId _).filter _).map _).trans ?_
  apply List.Perm.of_eq
  simp only [List.map_flatMap, List.filter_flatMap, runFetchMetricDescriptors, List.map_map,
    List.filter_map, Function.comp_def, newDescriptors, includedDescriptors]

theorem value_of_create {item : MetricDescriptorItem} {descriptor : GCPMetricDescriptor}
    (h : GCPMetricDescriptor.create item = .ok descriptor) :
    descriptor.value = item.type.getD [] := by
  obtain ⟨_, -, h⟩ := bind_eq_ok_iff.mp h
  obtain ⟨_, -, h⟩ := bind_eq_ok_iff.mp h
  obtain ⟨_, -, h⟩ := bind_eq_ok_iff.mp h
  obtain ⟨_, -, h⟩ := bind_eq_ok_iff.mp h
  cases h
  rfl

theorem value_of_included {selection : MetricSelection} {resources : List Text}
    {item : MetricDescriptorItem} {descriptor : GCPMetricDescriptor}
    (h : included selection resources item = some descriptor) :
    descriptor.value = item.type.getD [] := by
  rw [included] at h
  split at h
  · next created hcreated =>
    split_ifs at h
    cases h
    exact value_of_create hcreated
  · contradiction

theorem sublist_listedTypes (selection : MetricSelection) (resources : List Text)
    (items : List MetricDescriptorItem) :
    ((items.filterMap (included selection resources)).map GCPMetricDescriptor.value).Sublist
      (listedTypes items) := by
  induction items with
  | nil => exact List.Sublist.refl _
  | cons item items ih =>
    rw [List.filterMap_cons]
    cases h : included selection resources item with
    | none => exact ih.cons _
    | some descriptor =>
      rw [List.map_cons, value_of_included h]
      exact ih.cons_cons _

theorem sublist_newDescriptors (projectId : Text) :
    ((newDescriptors context inputs autodiscoveryResources projectId).map
      GCPMetricDescriptor.value).Sublist (listedTypes (listing (inputs.responses projectId))) :=
  (List.filter_sublist.map _).trans (sublist_listedTypes _ _ _)

theorem mem_fetchedPairs_iff {result : AutodiscoveryResult} {projectIds : List Text}
    (hprojects : inputs.projectIds = .ok projectIds)
    (h : runAutodiscovery context inputs autodiscoveryResources = .ok result)
    {googleMetric projectId : Text} :
    (googleMetric, projectId) ∈ fetchedPairs result.metrics ↔ projectId ∈ projectIds ∧
      ∃ descriptor ∈ newDescriptors context inputs autodiscoveryResources projectId,
        googleMetricOf descriptor.value = googleMetric := by
  rw [(fetchedPairs_perm hprojects h).mem_iff, List.mem_flatMap]
  simp only [List.mem_map, Prod.mk.injEq]
  constructor
  · rintro ⟨_, hproject, descriptor, hnew, hgoogle, rfl⟩
    exact ⟨hproject, descriptor, hnew, hgoogle⟩
  · rintro ⟨hproject, descriptor, hnew, hgoogle⟩
    exact ⟨projectId, hproject, descriptor, hnew, hgoogle, rfl⟩

theorem mem_fetchedPairs {metrics : List Metric} {metric : Metric} (hmetric : metric ∈ metrics)
    {projectId : Text} (hproject : projectId ∈ metric.projectIds) :
    (metric.googleMetric, projectId) ∈ fetchedPairs metrics :=
  List.mem_flatMap.mpr ⟨metric, hmetric, List.mem_map.mpr ⟨projectId, hproject, rfl⟩⟩

theorem nodup_fetchedPairs {result : AutodiscoveryResult} {projectIds : List Text}
    (hprojects : inputs.projectIds = .ok projectIds)
    (h : runAutodiscovery context inputs autodiscoveryResources = .ok result)
    (hdistinct : projectIds.Nodup)
    (honce : ∀ projectId ∈ projectIds,
      ((newDescriptors context inputs autodiscoveryResources projectId).map
        (fun descriptor => googleMetricOf descriptor.value)).Nodup) :
    (fetchedPairs result.metrics).Nodup := by
  rw [(fetchedPairs_perm hprojects h).nodup_iff, List.nodup_flatMap]
  constructor
  · intro projectId hproject
    have hpairs := (honce projectId hproject).map
      (f := fun googleMetric => (googleMetric, projectId)) (fun a b hab => congrArg Prod.fst hab)
    rw [List.map_map] at hpairs
    exact hpairs
  · refine hdistinct.imp ?_
    intro p q hne pair hp hq
    obtain ⟨_, -, rfl⟩ := List.mem_map.mp hp
    obtain ⟨_, -, hpair⟩ := List.mem_map.mp hq
    exact hne (congrArg Prod.snd hpair).symm

theorem fetchedOnce_of_nodup {metrics : List Metric} {googleMetric projectId : Text}
    (hnodup : (fetchedPairs metrics).Nodup)
    (hmem : (googleMetric, projectId) ∈ fetchedPairs metrics) :
    FetchedOnce metrics googleMetric projectId := by
  obtain ⟨before, metric, after, hmetrics, hcount, hothers⟩ := exists_unique_source hnodup hmem
  have hpair : (googleMetric, projectId) ∈
      metric.projectIds.map (fun projectId => (metric.googleMetric, projectId)) :=
    List.count_pos_iff.mp (by omega)
  obtain ⟨_, -, hpair⟩ := List.mem_map.mp hpair
  cases hpair
  refine ⟨before, metric, after, hmetrics, rfl, ?_, ?_⟩
  · rw [← hcount]
    exact (List.count_map_of_injective _ (fun projectId => (metric.googleMetric, projectId))
      (fun a b hab => congrArg Prod.snd hab) _).symm
  · intro other hother hgoogle hproject
    exact hothers other hother (List.mem_map.mpr ⟨projectId, hproject, by rw [hgoogle]⟩)

theorem FetchedOnce.mem_fetchedPairs {metrics : List Metric} {googleMetric projectId : Text}
    (h : FetchedOnce metrics googleMetric projectId) :
    (googleMetric, projectId) ∈ fetchedPairs metrics := by
  obtain ⟨before, metric, after, rfl, rfl, hcount, -⟩ := h
  exact Autodiscovery.mem_fetchedPairs (List.mem_append_cons_self)
    (List.count_pos_iff.mp (by omega))

theorem googleMetricOf_eq_of_fetched {result : AutodiscoveryResult} {projectIds : List Text}
    (hprojects : inputs.projectIds = .ok projectIds)
    (h : runAutodiscovery context inputs autodiscoveryResources = .ok result) {projectId : Text}
    (hfetched : ∀ descriptor ∈ newDescriptors context inputs autodiscoveryResources projectId,
      FetchedOnce result.metrics descriptor.value projectId) :
    ∀ descriptor ∈ newDescriptors context inputs autodiscoveryResources projectId,
      googleMetricOf descriptor.value = descriptor.value := by
  by_contra hcut
  push Not at hcut
  obtain ⟨descriptor, hdescriptor, hne⟩ := hcut
  let cut := (newDescriptors context inputs autodiscoveryResources projectId).filter
    (fun descriptor => googleMetricOf descriptor.value ≠ descriptor.value)
  have hmem : ∀ {descriptor}, descriptor ∈ cut ↔
      descriptor ∈ newDescriptors context inputs autodiscoveryResources projectId ∧
        googleMetricOf descriptor.value ≠ descriptor.value := by
    simp [cut]
  -- a type that is cut to the longest of them would be longer still
  obtain ⟨longest, hlongest, hmax⟩ := cut.toFinset.exists_max_image
    (fun descriptor => descriptor.value.length)
    ⟨descriptor, List.mem_toFinset.mpr (hmem.mpr ⟨hdescriptor, hne⟩)⟩
  obtain ⟨hnew, hcut⟩ := hmem.mp (List.mem_toFinset.mp hlongest)
  obtain ⟨-, source, hsource, hgoogle⟩ := (mem_fetchedPairs_iff hprojects h).mp
    (hfetched longest hnew).mem_fetchedPairs
  have hsublist : (googleMetricOf source.value).Sublist source.value :=
    Text.replaceAll_nil_sublist _ _
  have hsourceCut : googleMetricOf source.value ≠ source.value := by
    intro hwhole
    rw [← hgoogle, hwhole] at hcut
    exact hcut hwhole
  have hlength := hmax source (List.mem_toFinset.mpr (hmem.mpr ⟨hsource, hsourceCut⟩))
  rw [← hgoogle] at hlength
  exact hsourceCut (hsublist.eq_of_length (le_antisymm hsublist.length_le hlength))

theorem fetchedOncePerProject_iff {result : AutodiscoveryResult} {projectIds : List Text}
    (hprojects : inputs.projectIds = .ok projectIds)
    (h : runAutodiscovery context inputs autodiscoveryResources = .ok result)
    (hdistinct : projectIds.Nodup)
    (honce : ∀ projectId ∈ projectIds,
      (listedTypes (listing (inputs.responses projectId))).Nodup) :
    FetchedOncePerProject context inputs autodiscoveryResources projectIds result ↔
      ∀ projectId ∈ projectIds,
        ∀ descriptor ∈ newDescriptors context inputs autodiscoveryResources projectId,
          googleMetricOf descriptor.value = descriptor.value := by
  constructor
  · intro hfetched projectId hproject
    exact googleMetricOf_eq_of_fetched hprojects h
      (fun descriptor hdescriptor => (hfetched projectId hproject descriptor hdescriptor).1)
  · intro hwhole projectId hproject descriptor hdescriptor
    have hnodup : (fetchedPairs result.metrics).Nodup := by
      apply nodup_fetchedPairs hprojects h hdistinct
      intro projectId hproject
      rw [List.map_congr_left (hwhole projectId hproject)]
      exact (sublist_newDescriptors projectId).nodup (honce projectId hproject)
    constructor
    · apply fetchedOnce_of_nodup hnodup
      exact (mem_fetchedPairs_iff hprojects h).mpr
        ⟨hproject, descriptor, hdescriptor, hwhole projectId hproject descriptor hdescriptor⟩
    · intro other hlisted metric hmetric hgoogle hother
      obtain ⟨hpolled, source, hsource, hvalue⟩ := (mem_fetchedPairs_iff hprojects h).mp
        (mem_fetchedPairs hmetric hother)
      rw [hwhole other hpolled source hsource, hgoogle] at hvalue
      rw [← hvalue] at hlisted
      exact hlisted ((sublist_newDescriptors other).subset (List.mem_map_of_mem hsource))

end

def prometheusContext : AutodiscoveryContext where
  mapping := []
  resourceToDiscovery := ["prometheus_target".toList]
  selection := ⟨[], false⟩
  autodiscoveryEnabled := true

def prometheusResources : ResourceLinkings := OrderedDict.empty.set "prometheus_target".toList none

def oneListing (items : List MetricDescriptorItem) : DiscoveryInputs where
  tokenCreated := true
  projectIds := .ok ["p".toList]
  resourceDimensions := .ok .empty
  responses := fun _ => [.page items []]
  metadataSent := .ok ()

def recordedItems : List MetricDescriptorItem :=
  [gaugeItem "prometheus.googleapis.com/metric:cpu/gauge",
    gaugeItem "prometheus.googleapis.com/cpu/gauge"]

def twoListings : DiscoveryInputs where
  tokenCreated := true
  projectIds := .ok ["p".toList, "q".toList]
  resourceDimensions := .ok .empty
  responses := fun projectId =>
    [.page [{ gaugeItem "prometheus.googleapis.com/cpu/gauge" with
      description := some projectId }] []]
  metadataSent := .ok ()

theorem types_of_one_google_metric_fetched_twice :
    ¬ ∀ (context : AutodiscoveryContext) (inputs : DiscoveryInputs)
      (autodiscoveryResources : ResourceLinkings) (result : AutodiscoveryResult)
      (projectIds : List Text), inputs.projectIds = .ok projectIds →
        runAutodiscovery context inputs autodiscoveryResources = .ok result → projectIds.Nodup →
          (∀ projectId ∈ projectIds, (listedTypes (listing (inputs.responses projectId))).Nodup) →
            FetchedOncePerProject context inputs autodiscoveryResources projectIds result := by
  intro hclaim
  have hresult : ∃ result, runAutodiscovery prometheusContext (oneListing recordedItems)
      prometheusResources = .ok result ∧
        result.metrics.map (fun metric => (metric.googleMetric, metric.projectIds)) =
          [("prometheus.googleapis.com/cpu/gauge".toList, ["p".toList]),
            ("prometheus.googleapis.com/cpu/gauge".toList, ["p".toList])] :=
    ⟨_, rfl, by decide +kernel⟩
  obtain ⟨result, hresult, hmetrics⟩ := hresult
  have hdescriptor : ∃ descriptor ∈ newDescriptors prometheusContext
      (oneListing recordedItems) prometheusResources "p".toList,
        descriptor.value = "prometheus.googleapis.com/cpu/gauge".toList := by
    decide +kernel
  obtain ⟨descriptor, hnew, hvalue⟩ := hdescriptor
  have honce : ∀ projectId ∈ ["p".toList],
      (listedTypes (listing ((oneListing recordedItems).responses projectId))).Nodup := by
    intro projectId _
    change (listedTypes recordedItems).Nodup
    decide +kernel
  have hfetched := (hclaim prometheusContext (oneListing recordedItems) prometheusResources result
    ["p".toList] rfl hresult (List.nodup_singleton _) honce _ List.mem_cons_self descriptor hnew).1
  rw [hvalue] at hfetched
  obtain ⟨before, metric, after, hsplit, -, -, hothers⟩ := hfetched
  have hlength : (before ++ after).length = 1 := by
    have htwo := congrArg List.length hmetrics
    rw [hsplit] at htwo
    simp only [List.length_map, List.length_append, List.length_cons, List.length_nil] at htwo ⊢
    omega
  obtain ⟨other, hother⟩ := List.length_eq_one_iff.mp hlength
  have hmem : other ∈ before ++ after := by simp [hother]
  have hmem' : other ∈ result.metrics := by
    rw [hsplit]
    simp only [List.mem_append, List.mem_cons] at hmem ⊢
    tauto
  have hboth := List.mem_map_of_mem (f := fun metric => (metric.googleMetric, metric.projectIds))
    hmem'
  rw [hmetrics] at hboth
  have hfields : other.googleMetric = "prometheus.googleapis.com/cpu/gauge".toList ∧
      other.projectIds = ["p".toList] := by
    simpa only [List.mem_cons, List.not_mem_nil, or_false, or_self, Prod.mk.injEq] using hboth
  refine hothers other hmem hfields.1 ?_
  rw [hfields.2]
  exact List.mem_cons_self

theorem fetchedOncePerProject_of_gauge :
    ∃ result, runAutodiscovery prometheusContext twoListings prometheusResources = .ok result ∧
      result.metrics.length = 2 ∧
      FetchedOncePerProject prometheusContext twoListings prometheusResources
        ["p".toList, "q".toList] result := by
  have hresult : ∃ result, runAutodiscovery prometheusContext twoListings prometheusResources =
      .ok result ∧ result.metrics.length = 2 := ⟨_, rfl, by decide +kernel⟩
  obtain ⟨result, hresult, hlength⟩ := hresult
  refine ⟨result, hresult, hlength, ?_⟩
  refine (fetchedOncePerProject_iff rfl hresult (by decide) ?_).mpr (by decide +kernel)
  intro projectId _
  change (listedTypes [_]).Nodup
  exact List.nodup_singleton _

end GcpMonitor.Autodiscovery
