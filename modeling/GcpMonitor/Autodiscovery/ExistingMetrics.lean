import GcpMonitor.Autodiscovery.DiscoveredOnce

namespace GcpMonitor.Autodiscovery

open Python Metrics ExceptList AutodiscoveryContext

/-- The discovery adds no metric to a resource that an enabled service mapped to it already has. -/
def NeverDuplicates (context : AutodiscoveryContext) (services : List GCPService)
    (result : AutodiscoveryResult) : Prop :=
  ∀ resource metric, (resource, metric) ∈ result.autodiscoveredResourcesToMetrics.pairs →
    ∀ service ∈ services, service.isEnabled = true →
      resource ∈ context.mappedResources service →
        metric.googleMetric ∉ service.metrics.map Metric.googleMetric

def CoveredType (context : AutodiscoveryContext) (services : List GCPService)
    (descriptor : GCPMetricDescriptor) : Prop :=
  ∃ covering ∈ services, covering.autodiscoveryEnabled = true ∧
    monitoredResource descriptor ∈ context.mappedResources covering ∧
      descriptor.value ∈ covering.metrics.map Metric.googleMetric

def OverlapsCovered (context : AutodiscoveryContext) (inputs : DiscoveryInputs)
    (services : List GCPService) (projectIds : List Text) : Prop :=
  ∀ projectId ∈ projectIds,
    ∀ descriptor ∈ includedDescriptors context inputs (context.checkResourcesToDiscover services)
        projectId,
      ∀ service ∈ services, service.isEnabled = true →
        monitoredResource descriptor ∈ context.mappedResources service →
          googleMetricOf descriptor.value ∈ service.metrics.map Metric.googleMetric →
            CoveredType context services descriptor

def linkedServices (linking : Option AutodiscoveryResourceLinking) : List GCPService :=
  linking.elim []
    (fun linking => linking.possibleServiceLinking ++ linking.disabledServicesForResource)

section

variable {context : AutodiscoveryContext} {inputs : DiscoveryInputs} {services : List GCPService}

theorem existingMetrics_eq (linking : Option AutodiscoveryResourceLinking) :
    existingMetrics linking = (linkedServices linking).flatMap
      (fun service => service.metrics.map Metric.googleMetric) := by
  cases linking <;> rfl

theorem mem_linkedServices_link {service other : GCPService}
    {linking : AutodiscoveryResourceLinking} :
    other ∈ linkedServices (some (link service linking)) ↔
      other ∈ linkedServices (some linking) ∨ other = service := by
  simp only [linkedServices, Option.elim_some, link]
  split_ifs <;> simp only [List.mem_append, List.mem_singleton] <;> tauto

theorem linkedServices_getD (linking : Option AutodiscoveryResourceLinking) :
    linkedServices (some (linking.getD ⟨[], []⟩)) = linkedServices linking := by
  cases linking <;> rfl

theorem mem_linkedServices_foldl_linkResource {service other : GCPService} {resources : List Text}
    {start : OrderedDict Text AutodiscoveryResourceLinking} {resource : Text} :
    other ∈ linkedServices ((resources.foldl (linkResource service) start).get resource) ↔
      other ∈ linkedServices (start.get resource) ∨ other = service ∧ resource ∈ resources := by
  induction resources generalizing start with
  | nil => simp
  | cons first rest ih =>
    rw [List.foldl_cons, ih, linkResource, List.mem_cons]
    by_cases h : resource = first
    · subst h
      rw [OrderedDict.get_set_self, mem_linkedServices_link, linkedServices_getD]
      tauto
    · rw [OrderedDict.get_set_of_ne _ _ h]
      tauto

theorem mem_linkedServices_foldl_linkService {start : OrderedDict Text AutodiscoveryResourceLinking}
    {resource : Text} {other : GCPService} :
    other ∈ linkedServices ((services.foldl context.linkService start).get resource) ↔
      other ∈ linkedServices (start.get resource) ∨
        other ∈ services ∧ other.autodiscoveryEnabled = true ∧
          resource ∈ context.mappedResources other := by
  induction services generalizing start with
  | nil => simp
  | cons service services ih =>
    rw [List.foldl_cons, ih, linkService, List.mem_cons]
    by_cases h : service.autodiscoveryEnabled = true
    · rw [if_pos h, mem_linkedServices_foldl_linkResource]
      constructor
      · rintro ((hstart | ⟨rfl, hresource⟩) | ⟨hmem, hflags⟩)
        · exact .inl hstart
        · exact .inr ⟨.inl rfl, h, hresource⟩
        · exact .inr ⟨.inr hmem, hflags⟩
      · rintro (hstart | ⟨rfl | hmem, henabled, hresource⟩)
        · exact .inl (.inl hstart)
        · exact .inl (.inr ⟨rfl, hresource⟩)
        · exact .inr ⟨hmem, henabled, hresource⟩
    · rw [if_neg h]
      constructor
      · rintro (hstart | ⟨hmem, hflags⟩)
        · exact .inl hstart
        · exact .inr ⟨.inr hmem, hflags⟩
      · rintro (hstart | ⟨rfl | hmem, henabled, hresource⟩)
        · exact .inl hstart
        · exact absurd henabled h
        · exact .inr ⟨hmem, henabled, hresource⟩

theorem mem_linkedServices {resource : Text} {other : GCPService} :
    other ∈ linkedServices ((context.linkings services).get resource) ↔
      other ∈ services ∧ other.autodiscoveryEnabled = true ∧
        resource ∈ context.mappedResources other := by
  rw [linkings, mem_linkedServices_foldl_linkService]
  simp [linkedServices]

theorem mem_resourcesMapping {service : GCPService} {resource : Text}
    (h : resource ∈ context.mappedResources service) :
    resource ∈ resourcesMapping context.mapping := by
  rw [mappedResources] at h
  cases hget : (getServicesToResources context.mapping).get (stubOf service) with
  | none => simp [hget] at h
  | some resources =>
    rw [hget, Option.getD_some] at h
    rcases OrderedDict.get_foldl_set_cases hget with hempty | ⟨entry, hentry, -, rfl⟩
    · simp at hempty
    · exact List.mem_flatMap.mpr ⟨entry, hentry, h⟩

theorem get_foldl_config {config : List Text} {start : ResourceLinkings} {resource : Text}
    (h : resource ∉ config) :
    (config.foldl (fun resources resource =>
      if (resources.get resource).isSome then resources else resources.set resource none)
        start).get resource = start.get resource := by
  induction config generalizing start with
  | nil => rfl
  | cons first rest ih =>
    rw [List.foldl_cons, ih (List.not_mem_of_not_mem_cons h)]
    split_ifs
    · rfl
    · exact OrderedDict.get_set_of_ne _ _ (List.ne_of_not_mem_cons h)

theorem get_checkResourcesToDiscover {resource : Text}
    (hmapped : resource ∈ resourcesMapping context.mapping)
    (hresource : resource ∈ (context.checkResourcesToDiscover services).keys) :
    ((context.checkResourcesToDiscover services).get resource).join =
      (context.linkings services).get resource := by
  have hconfig : resource ∉ context.getResourcesFromConfig := by
    intro h
    have := (List.mem_filter.mp h).2
    simp [hmapped] at this
  rw [← OrderedDict.get_isSome_iff, Option.isSome_iff_exists] at hresource
  obtain ⟨linking, hlinking⟩ := hresource
  rw [hlinking]
  rw [checkResourcesToDiscover, get_foldl_config hconfig] at hlinking
  rcases OrderedDict.get_foldl_set_cases hlinking with hempty | ⟨entry, hentry, rfl, rfl⟩
  · simp at hempty
  · exact (OrderedDict.get_of_mem_entries (List.mem_filter.mp hentry).1).symm

theorem monitoredResource_mem_of_included {selection : MetricSelection} {resources : List Text}
    {item : MetricDescriptorItem} {descriptor : GCPMetricDescriptor}
    (h : included selection resources item = some descriptor) :
    monitoredResource descriptor ∈ resources := by
  rw [included] at h
  split at h
  · split_ifs at h with hinclude
    cases h
    have hhead : descriptor.monitoredResourcesTypes.head?.elim false resources.contains = true := by
      simp only [shouldIncludeMetric] at hinclude
      cases halpha : selection.includeAlphaMetrics with
      | false =>
        simp only [halpha, Bool.not_false, if_pos, Bool.and_eq_true] at hinclude
        exact hinclude.1.1.2
      | true =>
        simp only [halpha, Bool.not_true, Bool.false_eq_true, if_false, Bool.and_eq_true]
          at hinclude
        exact hinclude.1.2
    rw [monitoredResource, List.headD_eq_head?_getD]
    cases hfirst : descriptor.monitoredResourcesTypes.head? with
    | none =>
      rw [hfirst] at hhead
      contradiction
    | some first =>
      rw [hfirst] at hhead
      simpa using hhead
  · contradiction

theorem isNew_iff {descriptor : GCPMetricDescriptor}
    (hmapped : monitoredResource descriptor ∈ resourcesMapping context.mapping)
    (hresource : monitoredResource descriptor ∈
      (context.checkResourcesToDiscover services).keys) :
    isNew (context.checkResourcesToDiscover services) descriptor = true ↔
      ¬ CoveredType context services descriptor := by
  rw [isNew, get_checkResourcesToDiscover hmapped hresource, existingMetrics_eq, Bool.not_eq_true',
    ← Bool.not_eq_true, List.contains_iff_mem, List.mem_flatMap, CoveredType]
  simp only [mem_linkedServices, and_assoc]

theorem mem_pairs_groupByResource {autodiscoveryResources : ResourceLinkings}
    {discovered : OrderedDict GCPMetricDescriptor (List Text)} {resource : Text} {metric : Metric} :
    (resource, metric) ∈ (groupByResource autodiscoveryResources discovered).pairs ↔
      ∃ entry ∈ discovered.entries, isNew autodiscoveryResources entry.1 = true ∧
        monitoredResource entry.1 = resource ∧ entry.1.metric entry.2 = metric := by
  rw [groupByResource, (OrderedDict.pairs_group_perm
    (fun entry : GCPMetricDescriptor × List Text => monitoredResource entry.1)
    (fun entry => entry.1.metric entry.2) _).mem_iff]
  simp only [List.mem_map, List.mem_filter, Prod.mk.injEq, and_assoc]

theorem exists_entry_metricPerProject {selection : MetricSelection} {resources : List Text}
    {responses : Text → List ListingResponse} {projectIds : List Text}
    {descriptor : GCPMetricDescriptor} :
    (∃ found, (descriptor, found) ∈
        (metricPerProject selection resources responses projectIds).entries) ↔
      ∃ projectId ∈ projectIds, ∃ item ∈ listing (responses projectId),
        included selection resources item = some descriptor := by
  have hkeys : (∃ found, (descriptor, found) ∈
      (metricPerProject selection resources responses projectIds).entries) ↔
        descriptor ∈ (metricPerProject selection resources responses projectIds).keys := by
    simp [OrderedDict.keys]
  rw [hkeys, metricPerProject, OrderedDict.mem_keys_group]
  simp only [List.mem_flatMap, runFetchMetricDescriptors, List.mem_map, List.mem_filterMap]
  constructor
  · rintro ⟨_, ⟨projectId, hproject, _, ⟨item, hitem, hincluded⟩, rfl⟩, rfl⟩
    exact ⟨projectId, hproject, item, hitem, hincluded⟩
  · rintro ⟨projectId, hproject, item, hitem, hincluded⟩
    exact ⟨_, ⟨projectId, hproject, descriptor, ⟨item, hitem, hincluded⟩, rfl⟩, rfl⟩

theorem neverDuplicates_iff {result : AutodiscoveryResult} {projectIds : List Text}
    (hprojects : inputs.projectIds = .ok projectIds)
    (h : runAutodiscovery context inputs (context.checkResourcesToDiscover services) =
      .ok result) :
    NeverDuplicates context services result ↔
      OverlapsCovered context inputs services projectIds := by
  obtain ⟨projectIds', hprojects', h⟩ := bind_eq_ok_iff.mp h
  obtain ⟨resourceDimensions, -, h⟩ := bind_eq_ok_iff.mp h
  obtain ⟨-, -, h⟩ := bind_eq_ok_iff.mp h
  rw [hprojects] at hprojects'
  cases hprojects'
  cases h
  constructor
  · intro hnever projectId hproject descriptor hdescriptor service hservice henabled hmapped hmetric
    obtain ⟨item, hitem, hincluded⟩ := List.mem_filterMap.mp hdescriptor
    by_contra huncovered
    have hnew := (isNew_iff (mem_resourcesMapping hmapped)
      (monitoredResource_mem_of_included hincluded)).mpr huncovered
    obtain ⟨found, hentry⟩ := exists_entry_metricPerProject.mpr
      ⟨projectId, hproject, item, hitem, hincluded⟩
    exact hnever _ _ (mem_pairs_groupByResource.mpr ⟨_, hentry, hnew, rfl, rfl⟩) service hservice
      henabled hmapped hmetric
  · intro hcovered resource metric hpair service hservice henabled hmapped hmetric
    obtain ⟨⟨descriptor, found⟩, hentry, hnew, rfl, rfl⟩ := mem_pairs_groupByResource.mp hpair
    obtain ⟨projectId, hproject, item, hitem, hincluded⟩ :=
      exists_entry_metricPerProject.mp ⟨found, hentry⟩
    have huncovered := (isNew_iff (mem_resourcesMapping hmapped)
      (monitoredResource_mem_of_included hincluded)).mp hnew
    exact huncovered (hcovered projectId hproject descriptor
      (List.mem_filterMap.mpr ⟨item, hitem, hincluded⟩) service hservice henabled hmapped hmetric)

/-- The discovered metrics leave out what the enabled services have exactly when every overlap is
with a service that autodiscovery is allowed for. -/
theorem discovered_metrics_not_duplicated_iff {service : AutodiscoveryGCPService}
    {projectIds : List Text} (hprojects : inputs.projectIds = .ok projectIds)
    (h : getAutodiscoveryService context inputs services = some service) :
    ∃ result, service = setMetrics result (context.checkResourcesToDiscover services) ∧
      runAutodiscovery context inputs (context.checkResourcesToDiscover services) = .ok result ∧
        (NeverDuplicates context services result ↔
          OverlapsCovered context inputs services projectIds) := by
  simp only [getAutodiscoveryService] at h
  split_ifs at h
  split at h
  · next result hresult =>
    split_ifs at h
    cases h
    exact ⟨result, rfl, hresult, neverDuplicates_iff hprojects hresult⟩
  · contradiction

end

def apiContext : AutodiscoveryContext where
  mapping := [
    ⟨⟨"google-api".toList, "api".toList, "default_metrics".toList⟩, [some "api".toList]⟩,
    ⟨⟨"google-api".toList, "consumed_api".toList, "default_metrics".toList⟩, [some "api".toList]⟩]
  resourceToDiscovery := []
  selection := ⟨[], false⟩
  autodiscoveryEnabled := true

def apiService (name : String) (metrics : List Metric) (autodiscoveryEnabled : Bool) :
    GCPService where
  name := name.toList
  featureSet := "default_metrics".toList
  technologyName := "N/A".toList
  dimensions := []
  metrics := metrics
  activation := .map []
  minSamplePeriodOverride := 0
  monitoringFilter := []
  isEnabled := true
  extensionName := "com.dynatrace.extension.google-api".toList
  autodiscoveryEnabled := autodiscoveryEnabled

def requestCount : Metric :=
  Metric.init {
    name := none
    key := none
    value := some "metric:serviceruntime.googleapis.com/api/request_count".toList
    type := none
    description := none
    gcpOptions := none
    dimensions := none } 0 false []

def apiListing : DiscoveryInputs :=
  oneListing [{ gaugeItem "serviceruntime.googleapis.com/api/request_count" with
    monitoredResourceTypes := ["api".toList] }]

theorem metrics_of_manual_service_discovered_again :
    ¬ ∀ (context : AutodiscoveryContext) (inputs : DiscoveryInputs) (services : List GCPService)
      (service : AutodiscoveryGCPService) (result : AutodiscoveryResult),
      getAutodiscoveryService context inputs services = some service →
        runAutodiscovery context inputs (context.checkResourcesToDiscover services) = .ok result →
          NeverDuplicates context services result := by
  intro hclaim
  let services := [apiService "api" [requestCount] false, apiService "consumed_api" [] true]
  have hproduced : (getAutodiscoveryService apiContext apiListing services).isSome = true := by
    decide +kernel
  obtain ⟨service, hservice⟩ := Option.isSome_iff_exists.mp hproduced
  have hresult : ∃ result, runAutodiscovery apiContext apiListing
      (apiContext.checkResourcesToDiscover services) = .ok result := ⟨_, rfl⟩
  obtain ⟨result, hresult⟩ := hresult
  have hdescriptor : ∃ descriptor ∈ includedDescriptors apiContext apiListing
      (apiContext.checkResourcesToDiscover services) "p".toList,
        monitoredResource descriptor ∈
            apiContext.mappedResources (apiService "api" [requestCount] false) ∧
          googleMetricOf descriptor.value ∈ [requestCount].map Metric.googleMetric := by
    decide +kernel
  obtain ⟨descriptor, hincluded, hmapped, hmetric⟩ := hdescriptor
  have hprojects : apiListing.projectIds = .ok ["p".toList] := rfl
  have hcovered := (neverDuplicates_iff hprojects hresult).mp
    (hclaim apiContext apiListing services service result hservice hresult) "p".toList
    List.mem_cons_self descriptor hincluded _ List.mem_cons_self rfl hmapped hmetric
  obtain ⟨covering, hcovering, hallowed, -, hcoveringMetric⟩ := hcovered
  simp only [services, List.mem_cons, List.not_mem_nil, or_false] at hcovering
  rcases hcovering with rfl | rfl
  · cases hallowed
  · cases hcoveringMetric

def quotaListing : DiscoveryInputs :=
  oneListing (["serviceruntime.googleapis.com/api/request_count",
    "serviceruntime.googleapis.com/quota/used"].map (fun type =>
      { gaugeItem type with monitoredResourceTypes := ["api".toList] }))

theorem discovered_metrics_not_duplicated_api :
    ∃ service result,
      getAutodiscoveryService apiContext quotaListing [apiService "api" [requestCount] true] =
        some service ∧
      service = setMetrics result (apiContext.checkResourcesToDiscover
        [apiService "api" [requestCount] true]) ∧
      result.metrics.map Metric.googleMetric =
        ["serviceruntime.googleapis.com/quota/used".toList] ∧
      NeverDuplicates apiContext [apiService "api" [requestCount] true] result := by
  have hproduced : (getAutodiscoveryService apiContext quotaListing
      [apiService "api" [requestCount] true]).isSome = true := by
    decide +kernel
  obtain ⟨service, hservice⟩ := Option.isSome_iff_exists.mp hproduced
  have hprojects : quotaListing.projectIds = .ok ["p".toList] := rfl
  obtain ⟨result, hset, hresult, hiff⟩ :=
    discovered_metrics_not_duplicated_iff hprojects hservice
  have hmetrics : ∃ result, runAutodiscovery apiContext quotaListing
      (apiContext.checkResourcesToDiscover [apiService "api" [requestCount] true]) = .ok result ∧
        result.metrics.map Metric.googleMetric =
          ["serviceruntime.googleapis.com/quota/used".toList] :=
    ⟨_, rfl, by decide +kernel⟩
  obtain ⟨result', hresult', hmetrics⟩ := hmetrics
  obtain rfl : result = result' := Except.ok.inj (hresult.symm.trans hresult')
  refine ⟨service, result, hservice, hset, hmetrics, hiff.mpr ?_⟩
  intro projectId hproject descriptor hdescriptor service hservice _ hmapped hmetric
  obtain rfl := List.mem_singleton.mp hservice
  refine ⟨_, List.mem_singleton_self _, rfl, hmapped, ?_⟩
  rw [List.mem_singleton.mp hproject] at hdescriptor
  have hwhole : ∀ descriptor ∈ includedDescriptors apiContext quotaListing
      (apiContext.checkResourcesToDiscover [apiService "api" [requestCount] true]) "p".toList,
        googleMetricOf descriptor.value = descriptor.value := by
    decide +kernel
  rw [← hwhole descriptor hdescriptor]
  exact hmetric

end GcpMonitor.Autodiscovery
