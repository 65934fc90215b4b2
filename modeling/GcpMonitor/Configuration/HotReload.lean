import GcpMonitor.Configuration.Extensions
import GcpMonitor.Library.TransitionSystem

namespace GcpMonitor.Configuration

open Python Metrics ExceptList TransitionSystem

structure AutodiscoveryContext where
  resourceToDiscovery : Yaml
  autodiscoveryMetricBlockList : Yaml
  autodiscoveryEnabled : Bool
  loadedSuccessfully : Bool

def orDefault (value default : Yaml) : Yaml :=
  match value with
  | .null => default
  | value => value

variable (Y : YamlLibrary)

def searchedResources (configFile : ConfigFile) : Except PyError Yaml := do
  let autodiscoveryConfig ← safeReadYaml Y configFile none
  let misspelled ← autodiscoveryConfig.get "autodicovery_config" (.map [])
  let configSection ← autodiscoveryConfig.get "autodiscovery_config" misspelled
  let resourceToDiscovery ← configSection.get "searched_resources" (.map [])
  return orDefault resourceToDiscovery (.map [])

def metricBlockList (blockListFile : ConfigFile) : Except PyError Yaml := do
  let autodiscoveryMetricBlockList ←
    (← safeReadYaml Y blockListFile none).get "block_list" (.list [])
  return orDefault autodiscoveryMetricBlockList (.list [])

def readYamls (configFile blockListFile : ConfigFile) : Except PyError (Yaml × Yaml) := do
  let newResourceToDiscovery ← searchedResources Y configFile
  let newAutodiscoveryMetricBlockList ← metricBlockList Y blockListFile
  return (newResourceToDiscovery, newAutodiscoveryMetricBlockList)

namespace AutodiscoveryContext

def loadYamls (context : AutodiscoveryContext) (configFile blockListFile : ConfigFile) :
    AutodiscoveryContext :=
  match readYamls Y configFile blockListFile with
  | .ok (newResourceToDiscovery, newAutodiscoveryMetricBlockList) =>
    ⟨newResourceToDiscovery, newAutodiscoveryMetricBlockList, true, true⟩
  | .error _ =>
    if context.loadedSuccessfully then context
    else { context with autodiscoveryEnabled := false }

def init (configFile blockListFile : ConfigFile) : AutodiscoveryContext :=
  loadYamls Y ⟨.map [], .list [], true, false⟩ configFile blockListFile

end AutodiscoveryContext

structure MonitorState where
  fetched : ExtensionsFetchResult
  autodiscovery : AutodiscoveryContext

/-- One turn of a loop, with what it finds in the configuration files; a polling cycle fetches the
services only when it gets a token. -/
inductive Cycle where
  | polling (tokenFetched : Bool) (activationFile : ConfigFile)
  | autodiscovery (configFile blockListFile : ConfigFile)

variable (extensions : List Extension)

def launch (activationFile configFile blockListFile : ConfigFile) : Option MonitorState :=
  match extensionsFetch Y extensions activationFile with
  | .ok (some fetched) => some ⟨fetched, .init Y configFile blockListFile⟩
  | _ => none

def MonitorState.reload (s : MonitorState) : Cycle → MonitorState
  | .polling tokenFetched activationFile =>
    { s with fetched :=
      prepareServicesConfigForNextPolling Y tokenFetched extensions activationFile s.fetched }
  | .autodiscovery configFile blockListFile =>
    { s with autodiscovery := s.autodiscovery.loadYamls Y configFile blockListFile }

def hotReloadSystem (start : MonitorState) : System MonitorState Cycle where
  init := start
  step := fun s cycle => some (s.reload Y extensions cycle)

namespace MonitorState

def resources (s : MonitorState) : Except PyError (List Yaml) :=
  s.autodiscovery.resourceToDiscovery.iter

def blockList (s : MonitorState) : Except PyError (List Yaml) :=
  s.autodiscovery.autodiscoveryMetricBlockList.iter

end MonitorState

def Ignored (s : MonitorState) (cycle : Cycle) : Prop :=
  let t := s.reload Y extensions cycle
  match cycle with
  | .polling _ activationFile => Broken Y activationFile →
    enabledServices t.fetched.services = enabledServices s.fetched.services
  | .autodiscovery configFile blockListFile =>
    (Broken Y configFile → t.resources = s.resources) ∧
      (Broken Y blockListFile → t.blockList = s.blockList)

/-- The other file of the pair has a value, though it may be an empty one. -/
def Readable (read : ConfigFile → Except PyError Yaml) (file : ConfigFile) : Prop :=
  ∃ value, read file = .ok value

/-- There is nothing a broken file could take away, or the reload stops before it does. -/
def NothingToLose (s : MonitorState) : Cycle → Prop
  | .polling tokenFetched activationFile => Broken Y activationFile →
    tokenFetched = false ∨ enabledServices s.fetched.services = ∅
  | .autodiscovery configFile blockListFile =>
    (Broken Y configFile → ¬ Readable (metricBlockList Y) blockListFile ∨ s.resources = .ok []) ∧
      (Broken Y blockListFile → ¬ Readable (searchedResources Y) configFile ∨ s.blockList = .ok [])

section

variable {Y extensions}

theorem searchedResources_broken {file : ConfigFile} (h : Broken Y file) :
    searchedResources Y file = .ok (.map []) := by
  rw [searchedResources, safeReadYaml_broken h]
  rfl

theorem metricBlockList_broken {file : ConfigFile} (h : Broken Y file) :
    metricBlockList Y file = .ok (.list []) := by
  rw [metricBlockList, safeReadYaml_broken h]
  rfl

theorem readYamls_eq_ok_iff {configFile blockListFile : ConfigFile} {resources blockList : Yaml} :
    readYamls Y configFile blockListFile = .ok (resources, blockList) ↔
      searchedResources Y configFile = .ok resources ∧
        metricBlockList Y blockListFile = .ok blockList := by
  rw [readYamls, bind_eq_ok_iff]
  constructor
  · rintro ⟨resources', hresources, h⟩
    obtain ⟨blockList', hblockList, h⟩ := bind_eq_ok_iff.mp h
    cases h
    exact ⟨hresources, hblockList⟩
  · rintro ⟨hresources, hblockList⟩
    exact ⟨resources, hresources, bind_eq_ok_iff.mpr ⟨blockList, hblockList, rfl⟩⟩

theorem loadYamls_of_readYamls {configFile blockListFile : ConfigFile} {resources blockList : Yaml}
    (context : AutodiscoveryContext)
    (h : readYamls Y configFile blockListFile = .ok (resources, blockList)) :
    context.loadYamls Y configFile blockListFile = ⟨resources, blockList, true, true⟩ := by
  rw [AutodiscoveryContext.loadYamls, h]

theorem loadYamls_of_not_readable (context : AutodiscoveryContext)
    (configFile blockListFile : ConfigFile)
    (h : ¬ Readable (searchedResources Y) configFile ∨
      ¬ Readable (metricBlockList Y) blockListFile) :
    (context.loadYamls Y configFile blockListFile).resourceToDiscovery =
        context.resourceToDiscovery ∧
      (context.loadYamls Y configFile blockListFile).autodiscoveryMetricBlockList =
        context.autodiscoveryMetricBlockList := by
  have herror : ∃ e, readYamls Y configFile blockListFile = .error e := by
    cases hread : readYamls Y configFile blockListFile with
    | error e => exact ⟨e, rfl⟩
    | ok values =>
      obtain ⟨hresources, hblockList⟩ := readYamls_eq_ok_iff.mp hread
      cases h with
      | inl h => exact absurd ⟨_, hresources⟩ h
      | inr h => exact absurd ⟨_, hblockList⟩ h
  obtain ⟨e, he⟩ := herror
  rw [AutodiscoveryContext.loadYamls, he]
  cases hloaded : context.loadedSuccessfully <;> simp

theorem ignored_polling_iff (hextensions : ∃ extension ∈ extensions, extension.definitions ≠ [])
    (s : MonitorState) (tokenFetched : Bool) (activationFile : ConfigFile) :
    Ignored Y extensions s (.polling tokenFetched activationFile) ↔
      NothingToLose Y s (.polling tokenFetched activationFile) := by
  simp only [Ignored, NothingToLose, MonitorState.reload]
  apply imp_congr_right
  intro hbroken
  cases tokenFetched with
  | false => exact iff_of_true rfl (.inl rfl)
  | true =>
    rw [enabledServices_prepare_broken hbroken hextensions]
    constructor
    · intro h
      exact .inr h.symm
    · rintro (h | h)
      · contradiction
      · exact h.symm

theorem ignored_autodiscovery_iff (s : MonitorState) (configFile blockListFile : ConfigFile) :
    Ignored Y extensions s (.autodiscovery configFile blockListFile) ↔
      NothingToLose Y s (.autodiscovery configFile blockListFile) := by
  simp only [Ignored, NothingToLose, MonitorState.reload, MonitorState.resources,
    MonitorState.blockList]
  apply and_congr
  · apply imp_congr_right
    intro hbroken
    by_cases hreadable : Readable (metricBlockList Y) blockListFile
    · obtain ⟨blockList, hblockList⟩ := hreadable
      have hread := readYamls_eq_ok_iff.mpr ⟨searchedResources_broken hbroken, hblockList⟩
      rw [loadYamls_of_readYamls _ hread]
      constructor
      · intro h
        exact .inr h.symm
      · rintro (h | h)
        · exact absurd ⟨blockList, hblockList⟩ h
        · exact h.symm
    · have hkept := (loadYamls_of_not_readable s.autodiscovery configFile blockListFile
        (.inr hreadable)).1
      exact iff_of_true (congrArg Yaml.iter hkept) (.inl hreadable)
  · apply imp_congr_right
    intro hbroken
    by_cases hreadable : Readable (searchedResources Y) configFile
    · obtain ⟨resources, hresources⟩ := hreadable
      have hread := readYamls_eq_ok_iff.mpr ⟨hresources, metricBlockList_broken hbroken⟩
      rw [loadYamls_of_readYamls _ hread]
      constructor
      · intro h
        exact .inr h.symm
      · rintro (h | h)
        · exact absurd ⟨resources, hresources⟩ h
        · exact h.symm
    · have hkept := (loadYamls_of_not_readable s.autodiscovery configFile blockListFile
        (.inl hreadable)).2
      exact iff_of_true (congrArg Yaml.iter hkept) (.inl hreadable)

theorem ignored_iff (hextensions : ∃ extension ∈ extensions, extension.definitions ≠ [])
    (s : MonitorState) (cycle : Cycle) :
    Ignored Y extensions s cycle ↔ NothingToLose Y s cycle := by
  cases cycle with
  | polling tokenFetched activationFile =>
    exact ignored_polling_iff hextensions s tokenFetched activationFile
  | autodiscovery configFile blockListFile =>
    exact ignored_autodiscovery_iff s configFile blockListFile

theorem exists_definitions_of_launch {activationFile configFile blockListFile : ConfigFile}
    {start : MonitorState}
    (h : launch Y extensions activationFile configFile blockListFile = some start) :
    ∃ extension ∈ extensions, extension.definitions ≠ [] := by
  rw [launch] at h
  split at h
  · next fetched hfetch => exact exists_definitions_of_extensionsFetch hfetch
  · contradiction

theorem hotReload_ignores_broken_files_iff
    {activationFile configFile blockListFile : ConfigFile} {start : MonitorState}
    (h : launch Y extensions activationFile configFile blockListFile = some start)
    (trace : List Cycle) :
    (hotReloadSystem Y extensions start).Along (Ignored Y extensions) trace ↔
      (hotReloadSystem Y extensions start).Along (NothingToLose Y) trace := by
  apply System.along_congr
  intro s _
  exact ignored_iff (exists_definitions_of_launch h) s

end

def pubsubActivation : Text :=
  "services:\n- service: pubsub\n  featureSets:\n  - default_metrics\n".toList

def unclosedActivation : Text := "services: [".toList

def exampleYaml : YamlLibrary where
  safeLoad content :=
    if content = [] then some .null
    else if content = pubsubActivation then
      some (.map [(.str "services".toList, .list [.map [
        (.str "service".toList, .str "pubsub".toList),
        (.str "featureSets".toList, .list [.str "default_metrics".toList])]])])
    else none
  safeLoad_empty := rfl
  str value :=
    match value with
    | .str s => s
    | _ => []

def pubsubExtension : Extension where
  name := "com.dynatrace.extension.google-pubsub".toList
  version := "1.0.0".toList
  gcp := some [⟨some "pubsub".toList, some "default_metrics".toList, none, none, none, none⟩]

theorem launch_pubsub :
    ∃ start, launch exampleYaml [pubsubExtension] (some pubsubActivation) none none = some start ∧
      enabledServices start.fetched.services ≠ ∅ := by
  have heval : (launch exampleYaml [pubsubExtension] (some pubsubActivation) none none).map
      (fun start => start.fetched.services.any GCPService.isEnabled) = some true := by
    decide +kernel
  obtain ⟨start, hstart, hany⟩ := Option.map_eq_some_iff.mp heval
  obtain ⟨service, hmem, henabled⟩ := List.any_eq_true.mp hany
  refine ⟨start, hstart, ?_⟩
  intro hempty
  exact Set.notMem_empty service (hempty ▸ ⟨hmem, henabled⟩)

theorem broken_unclosedActivation : Broken exampleYaml (some unclosedActivation) :=
  ⟨unclosedActivation, rfl, by decide +kernel⟩

theorem broken_file_disables_services :
    ¬ ∀ (Y : YamlLibrary) (extensions : List Extension)
      (activationFile configFile blockListFile : ConfigFile) (start : MonitorState),
      launch Y extensions activationFile configFile blockListFile = some start →
        ∀ trace, (hotReloadSystem Y extensions start).Along (Ignored Y extensions) trace := by
  intro hclaim
  obtain ⟨start, hlaunch, henabled⟩ := launch_pubsub
  have halong := hclaim exampleYaml [pubsubExtension] (some pubsubActivation) none none start
    hlaunch [.polling true (some unclosedActivation)]
  rw [System.along_singleton] at halong
  have hlose := (ignored_iff (exists_definitions_of_launch hlaunch) start _).mp halong
  rcases hlose broken_unclosedActivation with htoken | hempty
  · contradiction
  · exact henabled hempty

theorem hotReload_ignores_broken_files_without_token :
    ∃ start, launch exampleYaml [pubsubExtension] (some pubsubActivation) none none = some start ∧
      (hotReloadSystem exampleYaml [pubsubExtension] start).Along
        (Ignored exampleYaml [pubsubExtension]) [.polling false (some unclosedActivation)] := by
  obtain ⟨start, hlaunch, -⟩ := launch_pubsub
  refine ⟨start, hlaunch, (hotReload_ignores_broken_files_iff hlaunch _).mpr ?_⟩
  rw [System.along_singleton]
  exact fun _ => .inl rfl

end GcpMonitor.Configuration
