import GcpMonitor.Python.Yaml
import GcpMonitor.Metrics.ExecutionTime

namespace GcpMonitor.Metrics

open Python

/-- The sections of an extension as the extension schema types them; a field is none when the
section leaves it out. -/
structure DimensionDefinition where
  key : Option Text
  value : Option Text
  deriving DecidableEq

structure GcpOptions where
  metricKind : Option Text
  valueType : Option Text
  unit : Option Text
  ingestDelay : Option ℤ
  samplePeriod : Option ℤ
  deriving DecidableEq

structure MetricDefinition where
  name : Option Text
  key : Option Text
  value : Option Text
  type : Option Text
  description : Option Text
  gcpOptions : Option GcpOptions
  dimensions : Option (List DimensionDefinition)
  deriving DecidableEq

structure ServiceDefinition where
  service : Option Text
  featureSet : Option Text
  techName : Option Text
  dimensions : Option (List DimensionDefinition)
  metrics : Option (List MetricDefinition)
  gcpMonitoringFilter : Option Text
  deriving DecidableEq

structure Dimension where
  keyForGetFuncCreateEntityId : Text
  keyForCreateEntityId : Text
  keyForFetchMetric : Text
  keyForSendToDynatrace : Text
  deriving DecidableEq

def orText (first second : Text) : Text := if first = [] then second else first

def Dimension.init (definition : DimensionDefinition) : Dimension :=
  let key := definition.key.getD []
  let value := (definition.value.getD []).replaceAll "label:".toList []
  { keyForGetFuncCreateEntityId := value
    keyForCreateEntityId := orText (value.replaceAll "resource.labels.".toList []) key
    keyForFetchMetric := orText value ("metric.labels.".toList ++ key)
    keyForSendToDynatrace := key }

structure Metric where
  name : Text
  googleMetric : Text
  googleMetricKind : Text
  dynatraceName : Text
  dynatraceMetricType : Text
  unit : Option Text
  dimensions : List Dimension
  ingestDelay : ℤ
  samplePeriodSeconds : ℤ
  samplePeriodOverridden : Bool
  valueType : Text
  metricType : Text
  autodiscoveredMetric : Bool
  description : Text
  projectIds : List Text
  deriving DecidableEq

def GcpOptions.empty : GcpOptions := ⟨none, none, none, none, none⟩

/-- `timedelta(seconds=seconds)` where a delay is given, and a minute where it is not or is zero -/
def delayOrMinute (seconds : Option ℤ) : ℤ :=
  if seconds.getD 0 = 0 then minute else seconds.getD 0 * second

def Metric.init (definition : MetricDefinition) (minSamplePeriodOverride : ℤ)
    (autodiscoveredMetric : Bool) (projectIds : List Text) : Metric :=
  let gcpOptions := definition.gcpOptions.getD .empty
  let samplePeriodSeconds := delayOrMinute gcpOptions.samplePeriod
  let overridden :=
    0 < minSamplePeriodOverride ∧ samplePeriodSeconds < minSamplePeriodOverride * second
  { name := definition.name.getD []
    googleMetric := (definition.value.getD []).replaceAll "metric:".toList []
    googleMetricKind := gcpOptions.metricKind.getD []
    dynatraceName := (definition.key.getD []).replace ':' ['.']
    dynatraceMetricType := definition.type.getD []
    unit := gcpOptions.unit
    dimensions := (definition.dimensions.getD []).map Dimension.init
    ingestDelay := delayOrMinute gcpOptions.ingestDelay
    samplePeriodSeconds :=
      if overridden then minSamplePeriodOverride * second else samplePeriodSeconds
    samplePeriodOverridden := overridden
    valueType := gcpOptions.valueType.getD []
    metricType := definition.type.getD []
    autodiscoveredMetric := autodiscoveredMetric
    description := definition.description.getD []
    projectIds := projectIds }

structure GCPService where
  name : Text
  featureSet : Text
  technologyName : Text
  dimensions : List Dimension
  metrics : List Metric
  activation : Yaml
  minSamplePeriodOverride : ℤ
  monitoringFilter : Text
  isEnabled : Bool
  extensionName : Text
  autodiscoveryEnabled : Bool

def closingBrackets : Text → Option ℕ
  | '\n' :: _ => none
  | '}' :: '}' :: _ => some 0
  | _ :: s => (closingBrackets s).map (fun n => n + 1)
  | [] => none

/-- `VARIABLE_BRACKETS_PATTERN.sub('', s)`: `skip` characters belong to a match already. -/
def removeBrackets : ℕ → Text → Text
  | _, [] => []
  | skip + 1, _ :: s => removeBrackets skip s
  | 0, c :: s =>
    if "\x7b\x7b".toList.isPrefixOf (c :: s) then
      match closingBrackets (s.drop 1) with
      | some n => removeBrackets (n + 3) s
      | none => c :: removeBrackets 0 s
    else c :: removeBrackets 0 s

def removeVars : ℕ → Text → Text
  | _, [] => []
  | skip + 1, _ :: s => removeVars skip s
  | 0, c :: s =>
    let name := (s.drop 3).takeWhile (fun c => !Text.isSpace c)
    if "var:".toList.isPrefixOf (c :: s) ∧ name ≠ [] then removeVars (name.length + 3) s
    else c :: removeVars 0 s

def minSpOverride (activation : Yaml) : Except PyError ℤ := do
  let rawMinSpOverride ← activation.get "minSamplePeriodOverride" .null
  match rawMinSpOverride with
  | .null => return 0
  | raw =>
    match raw.toInt with
    | .ok parsed => return if parsed > 0 then parsed else 0
    | .error .typeError => return 0
    | .error (.valueError _) => return 0
    | .error e => throw e

def applyVariable (Y : YamlLibrary) (monitoringFilter : Text) :
    Yaml × Yaml → Except PyError Text
  | (varKey, .str varValue) =>
    .ok ((monitoringFilter.replaceAll ('{' :: Y.str varKey ++ ['}']) varValue).replaceAll
      ("var:".toList ++ Y.str varKey) varValue)
  | _ => .error .typeError

def applyVariables (Y : YamlLibrary) (activation : Yaml) (monitoringFilter : Text) :
    Except PyError Text :=
  if activation.truthy then do
    let vars ← activation.get "vars" (.map [])
    let items ← if vars.truthy then vars.items else pure []
    items.foldlM (applyVariable Y) monitoringFilter
  else return monitoringFilter

def GCPService.init (Y : YamlLibrary) (definition : ServiceDefinition) (activation : Yaml)
    (isEnabled : Bool) (extensionName : Text) (autodiscoveryEnabled : Bool) :
    Except PyError GCPService := do
  let minSpOverride ← minSpOverride activation
  let metrics := (definition.metrics.getD []).filter (fun metric =>
    Text.upper ((metric.gcpOptions.getD .empty).valueType.getD []) ≠ "STRING".toList)
  let monitoringFilter ← applyVariables Y activation
    (definition.gcpMonitoringFilter.getD "var:filter_conditions".toList)
  return {
    name := definition.service.getD []
    featureSet := definition.featureSet.getD []
    technologyName := definition.techName.getD "N/A".toList
    dimensions := (definition.dimensions.getD []).map Dimension.init
    metrics := metrics.map (fun metric => Metric.init metric minSpOverride false [])
    activation := activation
    minSamplePeriodOverride := minSpOverride
    monitoringFilter := removeVars 0 (removeBrackets 0 monitoringFilter)
    isEnabled := isEnabled
    extensionName := extensionName
    autodiscoveryEnabled := autodiscoveryEnabled }

theorem GCPService.init_isEnabled {Y : YamlLibrary} {definition : ServiceDefinition}
    {activation : Yaml} {isEnabled : Bool} {extensionName : Text} {autodiscoveryEnabled : Bool}
    {service : GCPService} (h : GCPService.init Y definition activation isEnabled extensionName
      autodiscoveryEnabled = .ok service) : service.isEnabled = isEnabled := by
  simp only [GCPService.init, bind, Except.bind] at h
  split at h
  · cases h
  · split at h
    · cases h
    · cases h
      rfl

theorem GCPService.init_dimensions {Y : YamlLibrary} {definition : ServiceDefinition}
    {activation : Yaml} {isEnabled : Bool} {extensionName : Text} {autodiscoveryEnabled : Bool}
    {service : GCPService} (h : GCPService.init Y definition activation isEnabled extensionName
      autodiscoveryEnabled = .ok service) :
    service.dimensions = (definition.dimensions.getD []).map Dimension.init := by
  simp only [GCPService.init, bind, Except.bind] at h
  split at h
  · cases h
  · split at h
    · cases h
    · cases h
      rfl

theorem GCPService.init_empty (Y : YamlLibrary) (definition : ServiceDefinition)
    (isEnabled : Bool) (extensionName : Text) (autodiscoveryEnabled : Bool) :
    ∃ service, GCPService.init Y definition (.map []) isEnabled extensionName
      autodiscoveryEnabled = .ok service :=
  ⟨_, rfl⟩

end GcpMonitor.Metrics
