import GcpMonitor.Library.Grouping
import GcpMonitor.Metrics.FetchMetric
import Mathlib.Data.Char
import Mathlib.Data.List.Lex
import Mathlib.Data.List.Sort

namespace GcpMonitor.Autodiscovery

open Python Metrics

def gcpUnitConversionMap : List (String × String) :=
  [("1", "Count"), ("count", "Count"), ("Count", "Count"), ("{operation}", "Count"),
    ("{packet}", "Count"), ("{packets}", "Count"), ("{request}", "Count"), ("{port}", "Count"),
    ("{connection}", "Count"), ("{devices}", "Count"), ("{errors}", "Count"), ("{cpu}", "Count"),
    ("{query}", "Count"), ("{inode}", "Count"), ("s", "Second"), ("s{idle}", "Second"),
    ("sec", "Second"), ("By", "Byte"), ("Byte", "Byte"), ("bytes", "Byte"),
    ("By/s", "BytePerSecond"), ("kBy", "KiloBytePerSecond"), ("GBy.s", "GigaBytePerSecond"),
    ("GiBy", "GigaByte"), ("GBy", "GigaByte"), ("MiBy", "MegaByte"), ("ns", "NanoSecond"),
    ("us", "MicroSecond"), ("usec", "MicroSecond"), ("ms", "MilliSecond"),
    ("milliseconds", "MilliSecond"), ("us{CPU}", "MicroSecond"), ("10^2.%", "Percent"),
    ("%", "Percent"), ("percent", "Percent"), ("1/s", "PerSecond"),
    ("frames/seconds", "PerSecond"), ("s{CPU}", "Second"), ("s{uptime}", "Second"),
    ("{dBm}", "DecibelMilliWatt")]

structure MetricDescriptorItem where
  type : Option Text
  displayName : Option Text
  description : Option Text
  metricKind : Option Text
  valueType : Option Text
  unit : Option Text
  ingestDelay : Option Text
  samplePeriod : Option Text
  labels : List (Option Text)
  monitoredResourceTypes : List Text
  launchStage : Option Text

structure GCPMetricDescriptorOptions where
  ingestDelay : ℤ
  samplePeriod : ℤ
  valueType : Text
  metricKind : Text
  unit : Text
  deriving DecidableEq

structure GCPMetricDescriptorDimension where
  key : Text
  value : Text
  deriving DecidableEq

/-- Two descriptors are one key of a dictionary when all of their fields agree. -/
structure GCPMetricDescriptor where
  value : Text
  key : Text
  displayName : Text
  name : Text
  description : Text
  type : Text
  gcpOptions : GCPMetricDescriptorOptions
  dimensions : List GCPMetricDescriptorDimension
  monitoredResourcesTypes : List Text
  launchStage : Text
  deriving DecidableEq

namespace GCPMetricDescriptor

def castMetricKeyToDtFormat (metricName : Text) : Text :=
  (metricName.replace '.' ['_']).replace '/' ['.']

def castMetricKindToDtFormat (metricKind valueType : Text) : Except PyError Text :=
  if valueType = "DISTRIBUTION".toList then return "gauge".toList
  else if metricKind = "GAUGE".toList then return "gauge".toList
  else if metricKind = "DELTA".toList ∧ valueType ≠ "DISTRIBUTION".toList then
    return "count,delta".toList
  else if metricKind = "CUMULATIVE".toList then return "count,delta".toList
  else throw (.exception ("Unknown metric type: " ++ String.ofList metricKind))

def endsWithCount (metricName : Text) : Bool :=
  "_count".toList.isSuffixOf metricName || ".count".toList.isSuffixOf metricName

def getKeyMetricSuffix (metricName dataType : Text) : Text :=
  if endsWithCount metricName && dataType = "gauge".toList then ".gauge".toList
  else if !endsWithCount metricName &&
      (dataType = "count".toList || dataType = "count,delta".toList) then ".count".toList
  else []

def wholeSeconds (duration : Text) : Except PyError ℤ :=
  (Text.int duration.dropLast).elim (.error (.valueError none)) .ok

def dimension (key : Option Text) : Except PyError GCPMetricDescriptorDimension :=
  match key with
  | some key => return ⟨key, "label:metric.labels.".toList ++ key⟩
  | none => throw .typeError

def convertedUnit (unit : Text) : Text :=
  ((gcpUnitConversionMap.find? (fun entry => entry.1.toList = unit)).elim "Unspecified"
    Prod.snd).toList

def create (item : MetricDescriptorItem) : Except PyError GCPMetricDescriptor := do
  let type := item.type.getD []
  let metricType ←
    castMetricKindToDtFormat (item.metricKind.getD []) (item.valueType.getD [])
  let ingestDelay ← wholeSeconds (item.ingestDelay.getD "60s".toList)
  let samplePeriod ← wholeSeconds (item.samplePeriod.getD "60s".toList)
  let dimensions ← item.labels.mapM dimension
  return {
    value := type
    key := "cloud.gcp.".toList ++ castMetricKeyToDtFormat type ++ getKeyMetricSuffix type metricType
    displayName := item.displayName.getD []
    name := item.displayName.getD []
    description := item.description.getD []
    type := metricType
    gcpOptions := {
      ingestDelay := ingestDelay
      samplePeriod := samplePeriod
      valueType := item.valueType.getD []
      metricKind := item.metricKind.getD []
      unit := convertedUnit (item.unit.getD []) }
    dimensions := dimensions.insertionSort
      (fun a b => a.key < b.key ∨ a.key = b.key ∧ a.value ≤ b.value)
    monitoredResourcesTypes := item.monitoredResourceTypes.insertionSort (fun a b => a ≤ b)
    launchStage := item.launchStage.getD [] }

def metric (descriptor : GCPMetricDescriptor) (projectIds : List Text) : Metric :=
  Metric.init {
    name := some descriptor.name
    key := some descriptor.key
    value := some descriptor.value
    type := some descriptor.type
    description := some descriptor.description
    gcpOptions := some {
      metricKind := some descriptor.gcpOptions.metricKind
      valueType := some descriptor.gcpOptions.valueType
      unit := some descriptor.gcpOptions.unit
      ingestDelay := some descriptor.gcpOptions.ingestDelay
      samplePeriod := some descriptor.gcpOptions.samplePeriod }
    dimensions := some (descriptor.dimensions.map
      (fun dimension => ⟨some dimension.key, some dimension.value⟩)) } 0 true projectIds

end GCPMetricDescriptor

structure MetricSelection where
  blockList : List Text
  includeAlphaMetrics : Bool

def shouldIncludeMetric (selection : MetricSelection) (resourcesToAutodiscover : List Text)
    (descriptor : GCPMetricDescriptor) : Bool :=
  let shouldInclude :=
    descriptor.gcpOptions.valueType.upper ≠ "STRING".toList &&
      descriptor.launchStage ≠ "DEPRECATED".toList &&
      descriptor.monitoredResourcesTypes.length = 1 &&
      descriptor.monitoredResourcesTypes.head?.elim false resourcesToAutodiscover.contains &&
      !selection.blockList.any (fun blocked => blocked.isPrefixOf descriptor.value)
  if !selection.includeAlphaMetrics then
    shouldInclude && descriptor.launchStage ≠ "ALPHA".toList
  else shouldInclude

inductive ListingResponse where
  | raised
  | page (metricDescriptors : List MetricDescriptorItem) (nextPageToken : Text)

def listing : List ListingResponse → List MetricDescriptorItem
  | .page metricDescriptors nextPageToken :: rest =>
    metricDescriptors ++ if nextPageToken = [] then [] else listing rest
  | _ => []

def included (selection : MetricSelection) (resourcesToAutodiscover : List Text)
    (item : MetricDescriptorItem) : Option GCPMetricDescriptor :=
  match GCPMetricDescriptor.create item with
  | .ok descriptor =>
    if shouldIncludeMetric selection resourcesToAutodiscover descriptor then some descriptor
    else none
  | .error _ => none

structure FetchMetricDescriptorsResult where
  projectId : Text
  metricDescriptor : GCPMetricDescriptor

def runFetchMetricDescriptors (selection : MetricSelection) (resourcesToAutodiscover : List Text)
    (responses : Text → List ListingResponse) (projectId : Text) :
    List FetchMetricDescriptorsResult :=
  ((listing (responses projectId)).filterMap (included selection resourcesToAutodiscover)).map
    (fun descriptor => ⟨projectId, descriptor⟩)

def metricPerProject (selection : MetricSelection) (resourcesToAutodiscover : List Text)
    (responses : Text → List ListingResponse) (projectIds : List Text) :
    OrderedDict GCPMetricDescriptor (List Text) :=
  (projectIds.flatMap (runFetchMetricDescriptors selection resourcesToAutodiscover responses)).foldl
    (fun metricPerProject result =>
      metricPerProject.append result.metricDescriptor result.projectId) .empty

def existingMetrics (linking : Option AutodiscoveryResourceLinking) : List Text :=
  match linking with
  | some linking => (linking.possibleServiceLinking ++ linking.disabledServicesForResource).flatMap
      (fun service => service.metrics.map Metric.googleMetric)
  | none => []

def gaugeItem (type : String) : MetricDescriptorItem where
  type := some type.toList
  displayName := none
  description := none
  metricKind := some "GAUGE".toList
  valueType := some "DOUBLE".toList
  unit := some "1".toList
  ingestDelay := none
  samplePeriod := none
  labels := []
  monitoredResourceTypes := ["prometheus_target".toList]
  launchStage := none

end GcpMonitor.Autodiscovery
