import GcpMonitor.Configuration.Activation
import GcpMonitor.Library.ExceptList
import GcpMonitor.Metrics.Service

namespace GcpMonitor.Configuration

open Python Metrics ExceptList

/-- An extension that is active on the cluster; `gcp` is none when its configuration has no `gcp`
section. -/
structure Extension where
  name : Text
  version : Text
  gcp : Option (List ServiceDefinition)

structure ExtensionsFetchResult where
  services : List GCPService
  extensionVersions : List (Text × Text)

structure Activation where
  configPerService : OrderedDict (Option Text) Yaml
  autodiscoveryPerService : OrderedDict (Option Text) Bool
  featureSets : List Text

variable (Y : YamlLibrary)

def readActivation (activationYaml : Yaml) : Except PyError Activation := do
  let configPerService ← getActivationConfigPerService activationYaml
  let autodiscoveryPerService ← getAutodiscoveryFlagPerService activationYaml
  let featureSets ← loadActivatedFeatureSets Y activationYaml
  return { configPerService, autodiscoveryPerService, featureSets }

def featureSetName (definition : ServiceDefinition) : Text :=
  definition.service.getD "None".toList ++ '/' :: definition.featureSet.getD "None".toList

def serviceConfig (activation : Activation) (extensionName : Text)
    (definition : ServiceDefinition) : Except PyError GCPService :=
  GCPService.init Y definition
    ((activation.configPerService.get definition.service).getD (.map []))
    (activation.featureSets.contains (featureSetName definition)) extensionName
    ((activation.autodiscoveryPerService.get definition.service).getD false)

def getServiceConfigsForExtension (activation : Activation) (extension : Extension) :
    Except PyError (List GCPService) :=
  match extension.gcp with
  | none => return []
  | some definitions => definitions.mapM (serviceConfig Y activation extension.name)

def execute (extensions : List Extension) (activationFile : ConfigFile) :
    Except PyError ExtensionsFetchResult := do
  let activationYaml ← safeReadYaml Y activationFile none
  let activation ← readActivation Y activationYaml
  let configuredServices ← extensions.mapM (getServiceConfigsForExtension Y activation)
  return {
    services := configuredServices.flatten
    extensionVersions := extensions.map (fun extension => (extension.name, extension.version)) }

def extensionsFetch (extensions : List Extension) (activationFile : ConfigFile) :
    Except PyError (Option ExtensionsFetchResult) := do
  let extensionFetcherResult ← execute Y extensions activationFile
  return if extensionFetcherResult.services ≠ [] then some extensionFetcherResult else none

def fetchNewServices (tokenFetched : Bool) (extensions : List Extension)
    (activationFile : ConfigFile) : Except PyError ExtensionsFetchResult := do
  if tokenFetched then
    match ← extensionsFetch Y extensions activationFile with
    | some extensionsFetchResult => return extensionsFetchResult
    | none => throw (.exception "Extension fetch failed")
  else throw (.exception "Failed to fetch token")

def prepareServicesConfigForNextPolling (tokenFetched : Bool) (extensions : List Extension)
    (activationFile : ConfigFile) (current : ExtensionsFetchResult) : ExtensionsFetchResult :=
  match fetchNewServices Y tokenFetched extensions activationFile with
  | .ok extensionsFetchResult => extensionsFetchResult
  | .error _ => current

def enabledServices (services : List GCPService) : Set GCPService :=
  {service | service ∈ services ∧ service.isEnabled = true}

def Extension.definitions (extension : Extension) : List ServiceDefinition :=
  extension.gcp.getD []

variable {Y}

theorem getServiceConfigsForExtension_eq_ok_iff {activation : Activation} {extension : Extension}
    {services : List GCPService} :
    getServiceConfigsForExtension Y activation extension = .ok services ↔
      extension.definitions.mapM (serviceConfig Y activation extension.name) = .ok services := by
  rw [getServiceConfigsForExtension, Extension.definitions]
  cases extension.gcp <;> rfl

theorem execute_eq_ok {extensions : List Extension} {activationFile : ConfigFile}
    {result : ExtensionsFetchResult} (h : execute Y extensions activationFile = .ok result) :
    ∃ activation configured, extensions.mapM (getServiceConfigsForExtension Y activation) =
      .ok configured ∧ result.services = configured.flatten := by
  obtain ⟨activationYaml, -, h⟩ := bind_eq_ok_iff.mp h
  obtain ⟨activation, -, h⟩ := bind_eq_ok_iff.mp h
  obtain ⟨configured, hconfigured, h⟩ := bind_eq_ok_iff.mp h
  cases h
  exact ⟨activation, configured, hconfigured, rfl⟩

theorem exists_definitions_of_extensionsFetch {extensions : List Extension}
    {activationFile : ConfigFile} {result : ExtensionsFetchResult}
    (h : extensionsFetch Y extensions activationFile = .ok (some result)) :
    ∃ extension ∈ extensions, extension.definitions ≠ [] := by
  obtain ⟨fetched, hfetched, h⟩ := bind_eq_ok_iff.mp h
  obtain ⟨activation, configured, hconfigured, hservices⟩ := execute_eq_ok hfetched
  by_contra hall
  push Not at hall
  have hempty : fetched.services = [] := by
    rw [hservices, List.flatten_eq_nil_iff]
    intro services hmem
    obtain ⟨extension, hextension, hget⟩ := exists_of_mem_mapM hconfigured hmem
    rw [getServiceConfigsForExtension_eq_ok_iff, hall extension hextension] at hget
    cases hget
    rfl
  rw [if_neg (not_not.mpr hempty)] at h
  cases h

theorem readActivation_empty :
    readActivation Y (.map []) = .ok ⟨OrderedDict.empty, OrderedDict.empty, []⟩ := rfl

theorem serviceConfig_empty (extensionName : Text) (definition : ServiceDefinition) :
    ∃ service, serviceConfig Y ⟨OrderedDict.empty, OrderedDict.empty, []⟩ extensionName definition =
      .ok service :=
  GCPService.init_empty Y definition _ _ _

theorem execute_broken {activationFile : ConfigFile} (hbroken : Broken Y activationFile)
    (extensions : List Extension) :
    ∃ result, execute Y extensions activationFile = .ok result ∧
      (∀ service ∈ result.services, service.isEnabled = false) ∧
      ((∃ extension ∈ extensions, extension.definitions ≠ []) → result.services ≠ []) := by
  have hget : ∀ extension ∈ extensions, ∃ services, getServiceConfigsForExtension Y
      ⟨OrderedDict.empty, OrderedDict.empty, []⟩ extension = .ok services := by
    intro extension _
    obtain ⟨services, hservices⟩ := exists_mapM_eq_ok
      (fun definition (_ : definition ∈ extension.definitions) =>
        serviceConfig_empty extension.name definition)
    exact ⟨services, getServiceConfigsForExtension_eq_ok_iff.mpr hservices⟩
  obtain ⟨configured, hconfigured⟩ := exists_mapM_eq_ok hget
  refine ⟨⟨configured.flatten,
    extensions.map (fun extension => (extension.name, extension.version))⟩, ?_, ?_, ?_⟩
  · rw [execute, safeReadYaml_broken hbroken]
    exact bind_eq_ok_iff.mpr ⟨_, rfl, bind_eq_ok_iff.mpr
      ⟨_, readActivation_empty, bind_eq_ok_iff.mpr ⟨_, hconfigured, rfl⟩⟩⟩
  · intro service hservice
    obtain ⟨services, hservices, hmem⟩ := List.mem_flatten.mp hservice
    obtain ⟨extension, -, hextension⟩ := exists_of_mem_mapM hconfigured hservices
    rw [getServiceConfigsForExtension_eq_ok_iff] at hextension
    obtain ⟨definition, -, hdefinition⟩ := exists_of_mem_mapM hextension hmem
    exact GCPService.init_isEnabled hdefinition
  · rintro ⟨extension, hextension, hne⟩ hempty
    obtain ⟨services, hservices, hget⟩ := mem_mapM_of_mem hconfigured hextension
    rw [getServiceConfigsForExtension_eq_ok_iff, mapM_eq_ok_iff] at hget
    have hnil : services = [] := List.flatten_eq_nil_iff.mp hempty services hservices
    rw [hnil, List.forall₂_nil_right_iff] at hget
    exact hne hget

theorem enabledServices_prepare_broken {activationFile : ConfigFile}
    (hbroken : Broken Y activationFile) {extensions : List Extension}
    (hextensions : ∃ extension ∈ extensions, extension.definitions ≠ [])
    (current : ExtensionsFetchResult) :
    enabledServices (prepareServicesConfigForNextPolling Y true extensions activationFile
      current).services = ∅ := by
  obtain ⟨result, hresult, hdisabled, hne⟩ := execute_broken hbroken extensions
  have hfetch : fetchNewServices Y true extensions activationFile = .ok result := by
    simp only [fetchNewServices, extensionsFetch, hresult, bind, Except.bind, pure, Except.pure,
      if_pos (hne hextensions), if_true]
  rw [prepareServicesConfigForNextPolling, hfetch]
  rw [Set.eq_empty_iff_forall_notMem]
  rintro service ⟨hmem, henabled⟩
  rw [hdisabled service hmem] at henabled
  contradiction

end GcpMonitor.Configuration
