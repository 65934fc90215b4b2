import GcpMonitor.Autodiscovery.ExistingMetrics

namespace GcpMonitor.Autodiscovery

open Python Metrics ExceptList AutodiscoveryContext

def Linkable (services : List GCPService) (service : GCPService) : Prop :=
  service ∈ services ∧ service.isEnabled = true ∧ service.autodiscoveryEnabled = true

structure SafeLinking (services : List GCPService) (linking : AutodiscoveryResourceLinking) :
    Prop where
  nonempty : linking.possibleServiceLinking ≠ []
  linkable : ∀ linked ∈ linking.possibleServiceLinking, Linkable services linked

/-- What the unguarded lookups of `get_dimensions`, `get_name` and `fetch_metric` rely on. -/
structure SafeLookups (services : List GCPService) (service : AutodiscoveryGCPService)
    (metric : Metric) : Prop where
  resource : ∃ resource, service.metricsToResources.get metric.googleMetric = some resource
  linking : ∃ linking, service.metricsToLinking.get metric.googleMetric = some linking ∧
    ∀ present, linking = some present → SafeLinking services present
  getDimensions : ∃ dimensions, service.getDimensions metric = .ok dimensions
  getName : ∃ name, service.getName metric = .ok name
  metricSource : ∃ source,
    (MonitoredService.autodiscovery service).metricSource metric = .ok source

section

variable {context : AutodiscoveryContext} {inputs : DiscoveryInputs}
  {services : List GCPService}

def AllLinkable (services : List GCPService)
    (resources : OrderedDict Text AutodiscoveryResourceLinking) : Prop :=
  ∀ resource linking, resources.get resource = some linking →
    ∀ linked ∈ linking.possibleServiceLinking, Linkable services linked

theorem mem_possibleServiceLinking_link {service linked : GCPService}
    {linking : AutodiscoveryResourceLinking}
    (h : linked ∈ (link service linking).possibleServiceLinking) :
    linked ∈ linking.possibleServiceLinking ∨ linked = service ∧ service.isEnabled = true := by
  rw [link] at h
  split_ifs at h with henabled
  · rcases List.mem_append.mp h with h | h
    · exact .inl h
    · exact .inr ⟨List.mem_singleton.mp h, henabled⟩
  · exact .inl h

theorem AllLinkable.linkResource {resources : OrderedDict Text AutodiscoveryResourceLinking}
    (h : AllLinkable services resources) {service : GCPService} (hservice : service ∈ services)
    (hallowed : service.autodiscoveryEnabled = true) (resource : Text) :
    AllLinkable services (AutodiscoveryContext.linkResource service resources resource) := by
  intro other linking hget linked hlinked
  rw [AutodiscoveryContext.linkResource] at hget
  by_cases hother : other = resource
  · subst hother
    rw [OrderedDict.get_set_self, Option.some.injEq] at hget
    subst hget
    rcases mem_possibleServiceLinking_link hlinked with hbefore | ⟨rfl, henabled⟩
    · cases hstart : resources.get other with
      | none => simp [hstart] at hbefore
      | some start =>
        rw [hstart, Option.getD_some] at hbefore
        exact h other start hstart linked hbefore
    · exact ⟨hservice, henabled, hallowed⟩
  · rw [OrderedDict.get_set_of_ne _ _ hother] at hget
    exact h other linking hget linked hlinked

theorem AllLinkable.linkService {resources : OrderedDict Text AutodiscoveryResourceLinking}
    (h : AllLinkable services resources) {service : GCPService} (hservice : service ∈ services) :
    AllLinkable services (context.linkService resources service) := by
  rw [AutodiscoveryContext.linkService]
  split_ifs with hallowed
  · induction context.mappedResources service generalizing resources with
    | nil => exact h
    | cons resource rest ih => exact ih (h.linkResource hservice hallowed resource)
  · exact h

theorem allLinkable_linkings : AllLinkable services (context.linkings services) := by
  have hfoldl : ∀ (visited : List GCPService)
      (start : OrderedDict Text AutodiscoveryResourceLinking),
      (∀ service ∈ visited, service ∈ services) → AllLinkable services start →
        AllLinkable services (visited.foldl context.linkService start) := by
    intro visited
    induction visited with
    | nil =>
      intro start _ hstart
      exact hstart
    | cons service visited ih =>
      intro start hvisited hstart
      exact ih _ (fun other hother => hvisited other (List.mem_cons_of_mem _ hother))
        (hstart.linkService (hvisited service List.mem_cons_self))
  apply hfoldl services
  · exact fun _ hservice => hservice
  · intro resource linking hget
    simp at hget

theorem get_foldl_config_some {config : List Text} {start : ResourceLinkings} {resource : Text}
    {linking : AutodiscoveryResourceLinking}
    (h : (config.foldl (fun resources resource =>
      if (resources.get resource).isSome then resources else resources.set resource none)
        start).get resource = some (some linking)) :
    start.get resource = some (some linking) := by
  induction config generalizing start with
  | nil => exact h
  | cons first rest ih =>
    have hfirst : (if (start.get first).isSome then start else start.set first none).get resource =
        some (some linking) := ih h
    split_ifs at hfirst with hget
    · exact hfirst
    · by_cases hresource : resource = first
      · subst hresource
        rw [OrderedDict.get_set_self] at hfirst
        cases hfirst
      · rwa [OrderedDict.get_set_of_ne _ _ hresource] at hfirst

theorem safeLinking_of_get {resource : Text} {linking : AutodiscoveryResourceLinking}
    (h : (context.checkResourcesToDiscover services).get resource = some (some linking)) :
    SafeLinking services linking := by
  rw [checkResourcesToDiscover] at h
  rcases OrderedDict.get_foldl_set_cases (get_foldl_config_some h) with
    hempty | ⟨entry, hentry, rfl, heq⟩
  · simp at hempty
  · cases heq
    obtain ⟨hmem, hnonempty⟩ := List.mem_filter.mp hentry
    constructor
    · simpa using hnonempty
    · exact allLinkable_linkings _ _ (OrderedDict.get_of_mem_entries hmem)

theorem mem_keys_of_discovered {autodiscoveryResources : ResourceLinkings}
    {result : AutodiscoveryResult}
    (h : runAutodiscovery context inputs autodiscoveryResources = .ok result) {resource : Text}
    (hresource : resource ∈ result.autodiscoveredResourcesToMetrics.keys) :
    resource ∈ autodiscoveryResources.keys := by
  obtain ⟨projectIds, -, h⟩ := bind_eq_ok_iff.mp h
  obtain ⟨resourceDimensions, -, h⟩ := bind_eq_ok_iff.mp h
  obtain ⟨-, -, h⟩ := bind_eq_ok_iff.mp h
  cases h
  obtain ⟨⟨descriptor, found⟩, hentry, rfl⟩ := (OrderedDict.mem_keys_group _ _ _).mp hresource
  obtain ⟨projectId, -, item, -, hincluded⟩ :=
    exists_entry_metricPerProject.mp ⟨found, (List.mem_filter.mp hentry).1⟩
  exact monitoredResource_mem_of_included hincluded

theorem exists_linkedService {service : AutodiscoveryGCPService} {metric : Metric}
    {linking : Option AutodiscoveryResourceLinking}
    (hget : service.metricsToLinking.get metric.googleMetric = some linking)
    (hsafe : ∀ present, linking = some present → SafeLinking services present) :
    ∃ linked, service.linkedService metric = .ok linked := by
  rw [AutodiscoveryGCPService.linkedService, hget]
  cases linking with
  | none => exact ⟨none, rfl⟩
  | some present =>
    have hnonempty := (hsafe present rfl).nonempty
    cases hpossible : present.possibleServiceLinking with
    | nil => exact absurd hpossible hnonempty
    | cons linked rest => exact ⟨some linked, by simp only [hpossible]⟩

theorem exists_getDimensions {service : AutodiscoveryGCPService} {metric : Metric}
    {linked : Option GCPService} {resource : Text}
    (hlinked : service.linkedService metric = .ok linked)
    (hresource : service.metricsToResources.get metric.googleMetric = some resource) :
    ∃ dimensions, service.getDimensions metric = .ok dimensions := by
  simp only [AutodiscoveryGCPService.getDimensions, hlinked, hresource, bind, Except.bind]
  cases linked with
  | none => exact ⟨_, rfl⟩
  | some linked => exact ⟨_, rfl⟩

theorem exists_getName {service : AutodiscoveryGCPService} {metric : Metric}
    {linked : Option GCPService} (hlinked : service.linkedService metric = .ok linked) :
    ∃ name, service.getName metric = .ok name := by
  simp only [AutodiscoveryGCPService.getName, hlinked, bind, Except.bind]
  cases linked with
  | none => exact ⟨_, rfl⟩
  | some linked => exact ⟨_, rfl⟩

theorem safeLookups {service : AutodiscoveryGCPService} {metric : Metric} {resource : Text}
    {linking : Option AutodiscoveryResourceLinking}
    (hresource : service.metricsToResources.get metric.googleMetric = some resource)
    (hget : service.metricsToLinking.get metric.googleMetric = some linking)
    (hsafe : ∀ present, linking = some present → SafeLinking services present) :
    SafeLookups services service metric := by
  obtain ⟨linked, hlinked⟩ := exists_linkedService hget hsafe
  obtain ⟨dimensions, hdimensions⟩ := exists_getDimensions hlinked hresource
  obtain ⟨name, hname⟩ := exists_getName hlinked
  refine ⟨⟨resource, hresource⟩, ⟨linking, hget, hsafe⟩, ⟨dimensions, hdimensions⟩,
    ⟨name, hname⟩, ?_⟩
  simp only [MonitoredService.metricSource, hdimensions, hname, bind, Except.bind]
  split_ifs <;> exact ⟨_, rfl⟩

theorem safeLookups_setMetrics (result : AutodiscoveryResult) {metric : Metric}
    (hmetric : metric ∈ result.metrics) :
    SafeLookups services (setMetrics result (context.checkResourcesToDiscover services))
      metric := by
  rw [AutodiscoveryResult.metrics, OrderedDict.flatten_values] at hmetric
  obtain ⟨⟨resource, _⟩, hpair, rfl⟩ := List.mem_map.mp hmetric
  let service := setMetrics result (context.checkResourcesToDiscover services)
  have hresource : (service.metricsToResources.get _).isSome :=
    OrderedDict.get_isSome_iff.mpr (OrderedDict.mem_keys_foldl_set.mpr (.inr ⟨_, hpair, rfl⟩))
  have hlinking : (service.metricsToLinking.get _).isSome :=
    OrderedDict.get_isSome_iff.mpr (OrderedDict.mem_keys_foldl_set.mpr (.inr ⟨_, hpair, rfl⟩))
  obtain ⟨found, hfound⟩ := Option.isSome_iff_exists.mp hresource
  obtain ⟨linking, hget⟩ := Option.isSome_iff_exists.mp hlinking
  apply safeLookups hfound hget
  rintro present rfl
  rcases OrderedDict.get_foldl_set_cases hget with hempty | ⟨entry, -, -, hjoin⟩
  · simp at hempty
  · exact safeLinking_of_get (Option.join_eq_some_iff.mp hjoin)

theorem linked_service_lookups_succeed {service : AutodiscoveryGCPService}
    (h : getAutodiscoveryService context inputs services = some service) :
    ∃ result,
      runAutodiscovery context inputs (context.checkResourcesToDiscover services) = .ok result ∧
      service = setMetrics result (context.checkResourcesToDiscover services) ∧
      (∀ resource ∈ result.autodiscoveredResourcesToMetrics.keys,
        resource ∈ (context.checkResourcesToDiscover services).keys) ∧
      ∀ metric ∈ service.service.metrics, SafeLookups services service metric := by
  simp only [getAutodiscoveryService] at h
  split_ifs at h
  split at h
  · next result hresult =>
    split_ifs at h
    cases h
    refine ⟨result, hresult, rfl, ?_, ?_⟩
    · intro resource hresource
      exact mem_keys_of_discovered hresult hresource
    · intro metric hmetric
      exact safeLookups_setMetrics result hmetric
  · contradiction

theorem linked_service_lookups_succeed_api :
    ∃ service, getAutodiscoveryService apiContext apiListing [apiService "api" [] true] =
        some service ∧ service.service.metrics ≠ [] ∧
      ∀ metric ∈ service.service.metrics,
        SafeLookups [apiService "api" [] true] service metric := by
  have hproduced : (getAutodiscoveryService apiContext apiListing
      [apiService "api" [] true]).any (fun service => !service.service.metrics.isEmpty) = true := by
    decide +kernel
  obtain ⟨service, hservice, hmetrics⟩ := (Option.any_eq_true _ _).mp hproduced
  obtain ⟨-, -, -, -, hsafe⟩ := linked_service_lookups_succeed hservice
  exact ⟨service, hservice, by simpa using hmetrics, hsafe⟩

end

end GcpMonitor.Autodiscovery
