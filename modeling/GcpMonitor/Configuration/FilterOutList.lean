import GcpMonitor.Configuration.Activation
import GcpMonitor.Library.ExceptList
import GcpMonitor.Metrics.Exclusion

namespace GcpMonitor.Configuration

open Python Metrics ExceptList

def hashable : Yaml → Bool
  | .list _ => false
  | .map _ => false
  | _ => true

def toSet (value : Yaml) : Except PyError (List Yaml) := do
  let items ← value.iter
  if items.all hashable then return items else throw .typeError

def normalizeEntry (metric : Yaml) : Except PyError (Option ExcludedMetric) := do
  let dimensions ← metric.get "dimensions" .null
  let dimensions ← toSet (if dimensions.truthy then dimensions else .list [])
  return some { metric := ← metric.get "metric" .null, dimensions := some dimensions }

def readFilterOutListYaml (Y : YamlLibrary) (file : ConfigFile) (environ : Option Text) :
    Except PyError (List (Option ExcludedMetric)) := do
  let loadedYaml ← safeReadYaml Y file environ
  let filterOut ← loadedYaml.get "filter_out" .null
  let excludedMetrics ← (if filterOut.truthy then filterOut else .list []).iter
  excludedMetrics.mapM normalizeEntry

def namesMetric : Yaml → Bool
  | .map entries =>
    match Yaml.lookup entries "metric".toList with
    | some (.str s) => s ≠ []
    | _ => false
  | _ => false

def canBeSet : Yaml → Bool
  | .str _ => true
  | .list items => items.all hashable
  | .map entries => entries.all (fun entry => hashable entry.1)
  | _ => false

/-- A mapping whose dimensions are missing, empty or can be made a set. -/
def wellFormedEntry : Yaml → Bool
  | .map entries =>
    let dimensions := (Yaml.lookup entries "dimensions".toList).getD .null
    !dimensions.truthy || canBeSet dimensions
  | _ => false

theorem isOk_toSet (value : Yaml) : (toSet value).isOk = canBeSet value := by
  cases value with
  | str s =>
    have hall : (s.map (fun c => Yaml.str [c])).all hashable = true := by simp [hashable]
    simp only [toSet, Yaml.iter, canBeSet, bind, Except.bind, hall]
    rfl
  | list items =>
    simp only [toSet, Yaml.iter, canBeSet, bind, Except.bind]
    cases items.all hashable <;> rfl
  | map entries =>
    have hkeys : (entries.map Prod.fst).all hashable =
        entries.all (fun entry => hashable entry.1) := by
      rw [List.all_map]
      rfl
    simp only [toSet, Yaml.iter, canBeSet, bind, Except.bind, hkeys]
    cases entries.all (fun entry => hashable entry.1) <;> rfl
  | null | bool | int | float | infinity | nan | timestamp => rfl

theorem isOk_normalizeEntry (entry : Yaml) :
    (normalizeEntry entry).isOk = wellFormedEntry entry := by
  cases entry with
  | map entries =>
    have hok := isOk_toSet ((Yaml.lookup entries "dimensions".toList).getD .null)
    simp only [normalizeEntry, Yaml.get, bind, Except.bind, wellFormedEntry]
    cases htruthy : ((Yaml.lookup entries "dimensions".toList).getD .null).truthy with
    | false => rfl
    | true =>
      rw [← hok]
      simp only [if_true]
      cases toSet ((Yaml.lookup entries "dimensions".toList).getD .null) <;> rfl
  | null | bool | int | float | infinity | nan | str | timestamp | list => rfl

theorem exists_normalizeEntry {entry : Yaml} (h : wellFormedEntry entry = true) :
    ∃ normalized, normalizeEntry entry = .ok normalized := by
  rw [← isOk_normalizeEntry] at h
  cases hnormalize : normalizeEntry entry with
  | ok normalized => exact ⟨normalized, rfl⟩
  | error e =>
    rw [hnormalize] at h
    contradiction

theorem wellFormedEntry_of_ok {entry : Yaml} {normalized : Option ExcludedMetric}
    (h : normalizeEntry entry = .ok normalized) : wellFormedEntry entry = true := by
  rw [← isOk_normalizeEntry, h]
  rfl

theorem metricPrefix_normalizeEntry {entry : Yaml} {normalized : Option ExcludedMetric}
    (h : normalizeEntry entry = .ok normalized) :
    (metricPrefix normalized).isSome = namesMetric entry := by
  obtain ⟨dimensions, hdimensions, h⟩ := bind_eq_ok_iff.mp h
  obtain ⟨items, -, h⟩ := bind_eq_ok_iff.mp h
  obtain ⟨metric, hmetric, h⟩ := bind_eq_ok_iff.mp h
  cases h
  cases entry with
  | map entries =>
    cases hmetric
    simp only [metricPrefix, Option.bind_some, namesMetric]
    cases Yaml.lookup entries "metric".toList with
    | none => rfl
    | some metric =>
      cases metric with
      | str s => cases s <;> simp [asText]
      | null | bool | int | float | infinity | nan | timestamp | list | map => rfl
  | null | bool | int | float | infinity | nan | str | timestamp | list => cases hdimensions

theorem matchingMetrics_cons (metricName : Text) (entry : Option ExcludedMetric)
    (entries : List (Option ExcludedMetric)) :
    matchingMetrics metricName (entry :: entries) =
      matchingMetrics metricName [entry] ++ matchingMetrics metricName entries :=
  List.filterMap_append (l := [entry])

theorem matchingMetrics_of_none {entry : Option ExcludedMetric} (h : metricPrefix entry = none)
    (metricName : Text) : matchingMetrics metricName [entry] = [] := by
  apply List.filterMap_eq_nil_iff.mpr
  intro other hother
  rw [List.mem_singleton.mp hother, h]
  cases entry <;> rfl

theorem normalize_kept {entries : List Yaml} {normalized : List (Option ExcludedMetric)}
    (h : entries.mapM normalizeEntry = .ok normalized) :
    ∃ kept, (entries.filter namesMetric).mapM normalizeEntry = .ok kept ∧
      ∀ metricName, matchingMetrics metricName normalized = matchingMetrics metricName kept := by
  have hall := mapM_eq_ok_iff.mp h
  clear h
  induction hall with
  | nil => exact ⟨[], rfl, fun _ => rfl⟩
  | @cons entry first entries rest hfirst _ ih =>
    obtain ⟨kept, hkept, hmatching⟩ := ih
    have hmetricPrefix := metricPrefix_normalizeEntry hfirst
    cases hnames : namesMetric entry with
    | true =>
      refine ⟨first :: kept, ?_, ?_⟩
      · rw [List.filter_cons_of_pos hnames, mapM_eq_ok_iff]
        exact .cons hfirst (mapM_eq_ok_iff.mp hkept)
      · intro metricName
        rw [matchingMetrics_cons, hmatching, ← matchingMetrics_cons]
    | false =>
      rw [hnames, Option.isSome_eq_false_iff, Option.isNone_iff_eq_none] at hmetricPrefix
      refine ⟨kept, ?_, ?_⟩
      · rw [List.filter_cons_of_neg (by simp [hnames])]
        exact hkept
      · intro metricName
        rw [matchingMetrics_cons, matchingMetrics_of_none hmetricPrefix, List.nil_append,
          hmatching]

/-- What was read decides as the rest of the list would without the entries that name no metric. -/
def DecidesAs (normalized kept : List (Option ExcludedMetric)) : Prop :=
  ∀ metricName,
    shouldExcludeMetric metricName normalized =
      shouldExcludeMetric metricName kept ∧
    ∀ dimension,
      shouldExcludeDimension metricName dimension normalized none =
        shouldExcludeDimension metricName dimension kept none ∧
      shouldExcludeDimension metricName dimension normalized
          (findExcludedMetric metricName normalized) =
        shouldExcludeDimension metricName dimension kept
          (findExcludedMetric metricName kept)

theorem decidesAs_of_matchingMetrics {normalized kept : List (Option ExcludedMetric)}
    (h : ∀ metricName, matchingMetrics metricName normalized =
      matchingMetrics metricName kept) : DecidesAs normalized kept := by
  intro metricName
  have hfind : findExcludedMetric metricName normalized =
      findExcludedMetric metricName kept := by
    rw [findExcludedMetric, h]
    rfl
  refine ⟨?_, ?_⟩
  · rw [shouldExcludeMetric, hfind]
    rfl
  · intro dimension
    simp only [shouldExcludeDimension, hfind, and_self]

theorem readFilterOutListYaml_eq {Y : YamlLibrary} {file : ConfigFile} {environ : Option Text}
    {config : List (Yaml × Yaml)} {entries : List Yaml}
    (hloaded : safeReadYaml Y file environ = .ok (.map config))
    (hentries : Yaml.lookup config "filter_out".toList = some (.list entries)) :
    readFilterOutListYaml Y file environ = entries.mapM normalizeEntry := by
  simp only [readFilterOutListYaml, hloaded, Yaml.get, bind, Except.bind, hentries,
    Option.getD_some]
  cases entries <;> rfl

theorem malformed_entries_harmless_iff (Y : YamlLibrary) (file : ConfigFile)
    (environ : Option Text) (config : List (Yaml × Yaml)) (entries : List Yaml)
    (hloaded : safeReadYaml Y file environ = .ok (.map config))
    (hentries : Yaml.lookup config "filter_out".toList = some (.list entries)) :
    (∃ normalized kept, readFilterOutListYaml Y file environ = .ok normalized ∧
      (entries.filter namesMetric).mapM normalizeEntry = .ok kept ∧ DecidesAs normalized kept) ↔
      ∀ entry ∈ entries, wellFormedEntry entry = true := by
  rw [readFilterOutListYaml_eq hloaded hentries]
  constructor
  · rintro ⟨normalized, -, hnormalized, -⟩ entry hentry
    obtain ⟨first, -, hfirst⟩ := mem_mapM_of_mem hnormalized hentry
    exact wellFormedEntry_of_ok hfirst
  · intro h
    obtain ⟨normalized, hnormalized⟩ :=
      exists_mapM_eq_ok (fun entry hentry => exists_normalizeEntry (h entry hentry))
    obtain ⟨kept, hkept, hmatching⟩ := normalize_kept hnormalized
    exact ⟨normalized, kept, hnormalized, hkept, decidesAs_of_matchingMetrics hmatching⟩

def unnamedEntryFile : Text :=
  "filter_out:\n- metric: run.googleapis.com/\n  dimensions: [location]\n- dimensions: 1-5\n".toList

def unnamedEntryList : List Yaml :=
  [.map [(.str "metric".toList, .str "run.googleapis.com/".toList),
      (.str "dimensions".toList, .list [.str "location".toList])],
    .map [(.str "dimensions".toList, .str "1-5".toList)]]

def nullEntryFile : Text := "filter_out:\n-\n- metric: run.googleapis.com/\n".toList

def nullEntryList : List Yaml :=
  [.null, .map [(.str "metric".toList, .str "run.googleapis.com/".toList)]]

def filterOutConfig (entries : List Yaml) : List (Yaml × Yaml) :=
  [(.str "filter_out".toList, .list entries)]

def filterOutYaml : YamlLibrary where
  safeLoad content :=
    if content = [] then some .null
    else if content = unnamedEntryFile then some (.map (filterOutConfig unnamedEntryList))
    else if content = nullEntryFile then some (.map (filterOutConfig nullEntryList))
    else none
  safeLoad_empty := rfl
  str value :=
    match value with
    | .str s => s
    | _ => []

theorem lookup_filterOutConfig (entries : List Yaml) :
    Yaml.lookup (filterOutConfig entries) "filter_out".toList = some (.list entries) := by
  rw [filterOutConfig, Yaml.lookup, List.find?_cons_of_pos]
  · rfl
  · exact decide_eq_true rfl

theorem safeLoad_nullEntryFile :
    filterOutYaml.safeLoad nullEntryFile = some (.map (filterOutConfig nullEntryList)) := by
  have hne : nullEntryFile ≠ [] := by decide +kernel
  have hother : nullEntryFile ≠ unnamedEntryFile := by decide +kernel
  simp only [filterOutYaml, if_neg hne, if_neg hother, if_true]

theorem safeLoad_unnamedEntryFile :
    filterOutYaml.safeLoad unnamedEntryFile = some (.map (filterOutConfig unnamedEntryList)) := by
  have hne : unnamedEntryFile ≠ [] := by decide +kernel
  simp only [filterOutYaml, if_neg hne, if_true]

theorem safeReadYaml_of_safeLoad {Y : YamlLibrary} {content : Text} {entries : List Yaml}
    (h : Y.safeLoad content = some (.map (filterOutConfig entries))) :
    safeReadYaml Y (some content) none = .ok (.map (filterOutConfig entries)) := by
  simp only [safeReadYaml, Option.bind_some, h]
  rfl

theorem malformed_entries_harmless_unnamed :
    ∃ normalized kept,
      readFilterOutListYaml filterOutYaml (some unnamedEntryFile) none = .ok normalized ∧
      (unnamedEntryList.filter namesMetric).mapM normalizeEntry = .ok kept ∧
      DecidesAs normalized kept :=
  (malformed_entries_harmless_iff filterOutYaml (some unnamedEntryFile) none
    (filterOutConfig unnamedEntryList) unnamedEntryList
    (safeReadYaml_of_safeLoad safeLoad_unnamedEntryFile)
    (lookup_filterOutConfig unnamedEntryList)).mpr (by decide +kernel)

theorem null_entry_breaks_reading :
    ¬ ∀ (Y : YamlLibrary) (file : ConfigFile) (environ : Option Text)
      (config : List (Yaml × Yaml)) (entries : List Yaml),
      safeReadYaml Y file environ = .ok (.map config) →
      Yaml.lookup config "filter_out".toList = some (.list entries) →
      ∃ normalized kept, readFilterOutListYaml Y file environ = .ok normalized ∧
        (entries.filter namesMetric).mapM normalizeEntry = .ok kept ∧
        DecidesAs normalized kept := by
  intro hclaim
  have hloaded := safeReadYaml_of_safeLoad safeLoad_nullEntryFile
  have hentries := lookup_filterOutConfig nullEntryList
  obtain ⟨normalized, -, hread, -⟩ := hclaim filterOutYaml (some nullEntryFile) none
    (filterOutConfig nullEntryList) nullEntryList hloaded hentries
  rw [readFilterOutListYaml_eq hloaded hentries] at hread
  obtain ⟨first, -, hfirst⟩ := mem_mapM_of_mem hread List.mem_cons_self
  cases hfirst

end GcpMonitor.Configuration
