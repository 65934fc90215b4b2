import GcpMonitor.Library.OrderedDict
import GcpMonitor.Python.Yaml

namespace GcpMonitor.Configuration

open Python

/-- The text of a file of the configuration, none when it cannot be opened. -/
abbrev ConfigFile := Option Text

variable (Y : YamlLibrary)

def Broken (file : ConfigFile) : Prop := ∃ content, file = some content ∧ Y.safeLoad content = none

def safeReadYaml (file : ConfigFile) (environ : Option Text) : Except PyError Yaml := do
  let yamlDict ← match file.bind Y.safeLoad with
    | some yaml => pure yaml
    | none => (Y.safeLoad (environ.getD [])).elim (.error .yamlError) .ok
  return if yamlDict.truthy then yamlDict else .map []

def getActivationConfigPerService (activationYaml : Yaml) :
    Except PyError (OrderedDict (Option Text) Yaml) := do
  if activationYaml.truthy then
    let services ← activationYaml.item "services"
    if services.truthy then
      (← services.iter).foldlM (fun config serviceActivation => do
        let service ← serviceActivation.get "service" .null
        match ← service.nameKey with
        | some key => return config.set key serviceActivation
        | none => return config) OrderedDict.empty
    else return OrderedDict.empty
  else return OrderedDict.empty

def loadActivatedFeatureSets (activationYaml : Yaml) : Except PyError (List Text) := do
  (← (← activationYaml.get "services" (.list [])).iter).foldlM (fun servicesAllowList service => do
    let featureSets ← (← service.get "featureSets" (.list [])).iter
    let name ← service.get "service" .null
    return servicesAllowList ++
      featureSets.map (fun featureSet => Y.str name ++ '/' :: Y.str featureSet)) []

def getAutodiscoveryFlagPerService (activationYaml : Yaml) :
    Except PyError (OrderedDict (Option Text) Bool) := do
  (← (← activationYaml.get "services" (.list [])).iter).foldlM
    (fun enabledAutodiscovery service => do
      let serviceName ← service.get "service" (.str [])
      let autodiscoveryEnabledFlag ← service.get "allowAutodiscovery" (.bool false)
      match ← serviceName.nameKey with
      | some key =>
        return enabledAutodiscovery.set key (match autodiscoveryEnabledFlag with
          | .bool flag => flag
          | _ => false)
      | none => return enabledAutodiscovery) OrderedDict.empty

variable {Y}

theorem safeReadYaml_broken {file : ConfigFile} (h : Broken Y file) :
    safeReadYaml Y file none = .ok (.map []) := by
  obtain ⟨content, rfl, hload⟩ := h
  have hbind : (some content).bind Y.safeLoad = none := hload
  simp only [safeReadYaml, hbind, Option.getD_none, Y.safeLoad_empty]
  rfl

end GcpMonitor.Configuration
