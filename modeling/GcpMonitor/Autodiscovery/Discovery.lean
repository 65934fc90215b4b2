import GcpMonitor.Autodiscovery.Descriptors
import GcpMonitor.Library.ExceptList

namespace GcpMonitor.Autodiscovery

open Python Metrics ExceptList

structure ServiceStub where
  extensionName : Text
  serviceName : Text
  featureSetName : Text
  deriving DecidableEq

structure MappedService where
  stub : ServiceStub
  monitoredResources : List (Option Text)

def resourcesMapping (mapping : List MappedService) : List Text :=
  mapping.flatMap (fun entry => entry.monitoredResources.reduceOption)

def getServicesToResources (mapping : List MappedService) : OrderedDict ServiceStub (List Text) :=
  mapping.foldl (fun resources entry =>
    resources.set entry.stub entry.monitoredResources.reduceOption) .empty

structure AutodiscoveryContext where
  mapping : List MappedService
  resourceToDiscovery : List Text
  selection : MetricSelection
  autodiscoveryEnabled : Bool

namespace AutodiscoveryContext

variable (context : AutodiscoveryContext)

def getResourcesFromConfig : List Text :=
  context.resourceToDiscovery.filter
    (fun resource => !(resourcesMapping context.mapping).contains resource)

def stubOf (service : GCPService) : ServiceStub where
  extensionName := service.extensionName.rtakeWhile (fun c => c ≠ '.')
  serviceName := service.name
  featureSetName := service.featureSet

def mappedResources (service : GCPService) : List Text :=
  ((getServicesToResources context.mapping).get (stubOf service)).getD []

def link (service : GCPService) (linking : AutodiscoveryResourceLinking) :
    AutodiscoveryResourceLinking :=
  if service.isEnabled then
    { linking with possibleServiceLinking := linking.possibleServiceLinking ++ [service] }
  else
    { linking with
      disabledServicesForResource := linking.disabledServicesForResource ++ [service] }

def linkResource (service : GCPService)
    (resources : OrderedDict Text AutodiscoveryResourceLinking) (resource : Text) :
    OrderedDict Text AutodiscoveryResourceLinking :=
  resources.set resource (link service ((resources.get resource).getD ⟨[], []⟩))

def linkService (resources : OrderedDict Text AutodiscoveryResourceLinking)
    (service : GCPService) : OrderedDict Text AutodiscoveryResourceLinking :=
  if service.autodiscoveryEnabled then
    (context.mappedResources service).foldl (linkResource service) resources
  else resources

def linkings (services : List GCPService) : OrderedDict Text AutodiscoveryResourceLinking :=
  services.foldl context.linkService .empty

def checkResourcesToDiscover (services : List GCPService) :
    OrderedDict Text (Option AutodiscoveryResourceLinking) :=
  let linked := (context.linkings services).entries.filter
    (fun entry => !entry.2.possibleServiceLinking.isEmpty)
  let resources := linked.foldl (fun resources entry => resources.set entry.1 (some entry.2)) .empty
  context.getResourcesFromConfig.foldl (fun resources resource =>
    if (resources.get resource).isSome then resources else resources.set resource none) resources

end AutodiscoveryContext

structure DiscoveryInputs where
  tokenCreated : Bool
  projectIds : Except PyError (List Text)
  resourceDimensions : Except PyError (OrderedDict Text (List Dimension))
  responses : Text → List ListingResponse
  metadataSent : Except PyError Unit

structure AutodiscoveryResult where
  autodiscoveredResourcesToMetrics : OrderedDict Text (List Metric)
  resourceDimensions : OrderedDict Text (List Dimension)

def AutodiscoveryResult.metrics (result : AutodiscoveryResult) : List Metric :=
  result.autodiscoveredResourcesToMetrics.values.flatten

abbrev ResourceLinkings := OrderedDict Text (Option AutodiscoveryResourceLinking)

def monitoredResource (descriptor : GCPMetricDescriptor) : Text :=
  descriptor.monitoredResourcesTypes.headD []

def isNew (autodiscoveryResources : ResourceLinkings) (descriptor : GCPMetricDescriptor) : Bool :=
  !(existingMetrics (autodiscoveryResources.get (monitoredResource descriptor)).join).contains
    descriptor.value

def groupByResource (autodiscoveryResources : ResourceLinkings)
    (discoveredMetricDescriptors : OrderedDict GCPMetricDescriptor (List Text)) :
    OrderedDict Text (List Metric) :=
  (discoveredMetricDescriptors.entries.filter (fun entry =>
    isNew autodiscoveryResources entry.1)).foldl
      (fun metrics entry => metrics.append (monitoredResource entry.1) (entry.1.metric entry.2))
      .empty

variable (context : AutodiscoveryContext) (inputs : DiscoveryInputs)

def runAutodiscovery (autodiscoveryResources : ResourceLinkings) :
    Except PyError AutodiscoveryResult := do
  let projectIds ← inputs.projectIds
  let resourceDimensions ← inputs.resourceDimensions
  let discoveredMetricDescriptors := metricPerProject context.selection autodiscoveryResources.keys
    inputs.responses projectIds
  inputs.metadataSent
  return ⟨groupByResource autodiscoveryResources discoveredMetricDescriptors, resourceDimensions⟩

def autodiscoveryGCPService : GCPService where
  name := "Autodiscovery Service".toList
  featureSet := []
  technologyName := "N/A".toList
  dimensions := []
  metrics := []
  activation := .map []
  minSamplePeriodOverride := 0
  monitoringFilter := []
  isEnabled := true
  extensionName := "GCP Autodiscovery".toList
  autodiscoveryEnabled := false

def setMetrics (result : AutodiscoveryResult) (resourceLinking : ResourceLinkings) :
    AutodiscoveryGCPService :=
  let resourcesOfMetrics := result.autodiscoveredResourcesToMetrics.pairs
  { service := { autodiscoveryGCPService with metrics := result.metrics }
    metricsToResources := resourcesOfMetrics.foldl
      (fun resources entry => resources.set entry.2.googleMetric entry.1) .empty
    metricsToLinking := resourcesOfMetrics.foldl
      (fun linkings entry =>
        linkings.set entry.2.googleMetric (resourceLinking.get entry.1).join) .empty
    resourceDimensions := result.resourceDimensions }

def getAutodiscoveryService (services : List GCPService) : Option AutodiscoveryGCPService :=
  let resourcesToDiscovery := context.checkResourcesToDiscover services
  if !context.autodiscoveryEnabled || resourcesToDiscovery.entries.isEmpty || !inputs.tokenCreated
  then none
  else
    match runAutodiscovery context inputs resourcesToDiscovery with
    | .ok result =>
      if result.autodiscoveredResourcesToMetrics.keys.any (fun resource => resource ≠ []) then
        some (setMetrics result resourcesToDiscovery)
      else none
    | .error _ => none

end GcpMonitor.Autodiscovery
