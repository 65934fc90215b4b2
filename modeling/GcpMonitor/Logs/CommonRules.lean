import GcpMonitor.Library.OrderedDict
import GcpMonitor.Python.Json

namespace GcpMonitor.Logs

open Python

abbrev ParsedRecord := OrderedDict Text Json

def getSeverity (record : Json) (parsedRecord : ParsedRecord) : Except PyError ParsedRecord := do
  let severity ← record.get "severity" (.str "INFO".toList)
  pure (parsedRecord.set "severity".toList severity)

def getCloudProvider (parsedRecord : ParsedRecord) : Except PyError ParsedRecord :=
  .ok (parsedRecord.set "cloud.provider".toList (.str "gcp".toList))

def copyIfPresent (name : String) (key : String) (record : Json) (parsedRecord : ParsedRecord) :
    Except PyError ParsedRecord := do
  if ← record.contains name then
    let value ← record.item name
    pure (parsedRecord.set key.toList value)
  else pure parsedRecord

def getTimestamp : Json → ParsedRecord → Except PyError ParsedRecord :=
  copyIfPresent "timestamp" "timestamp"

def getLogSource : Json → ParsedRecord → Except PyError ParsedRecord :=
  copyIfPresent "logName" "log.source"

def getResourceType (resource : Json) (parsedRecord : ParsedRecord) :
    Except PyError ParsedRecord := do
  let resourceType ← resource.get "type" .null
  pure (if resourceType.truthy then parsedRecord.set "gcp.resource.type".toList resourceType
    else parsedRecord)

def resourceLabel (resource : Json) (name : String) : Except PyError Json := do
  let labels ← resource.get "labels" (.map [])
  labels.get name .null

def orElse (a : Json) (b : Except PyError Json) : Except PyError Json :=
  if a.truthy then .ok a else b

def getCloudRegion (resource : Json) (parsedRecord : ParsedRecord) :
    Except PyError ParsedRecord := do
  let region ← resourceLabel resource "region"
  let regionOrLocation ← orElse region (resourceLabel resource "location")
  let gcpRegion ← orElse regionOrLocation (resourceLabel resource "zone")
  pure (if gcpRegion.truthy then
      (parsedRecord.set "gcp.region".toList gcpRegion).set "cloud.region".toList gcpRegion
    else parsedRecord)

def getGcpProjectId (resource : Json) (parsedRecord : ParsedRecord) :
    Except PyError ParsedRecord := do
  let projectId ← resourceLabel resource "project_id"
  pure (if projectId.truthy then parsedRecord.set "gcp.project.id".toList projectId
    else parsedRecord)

def getGcpInstanceId (resource : Json) (parsedRecord : ParsedRecord) :
    Except PyError ParsedRecord := do
  let instanceId ← resourceLabel resource "instance_id"
  if instanceId.truthy then
    let length ← instanceId.len
    pure (if 3 ≤ length then parsedRecord.set "gcp.instance.id".toList instanceId
      else parsedRecord)
  else pure parsedRecord

/-- One step after the other until one raises; what has been written by then stays. -/
def runSteps : List (ParsedRecord → Except PyError ParsedRecord) → ParsedRecord →
    ParsedRecord × Option PyError
  | [], parsedRecord => (parsedRecord, none)
  | step :: steps, parsedRecord =>
    match step parsedRecord with
    | .ok parsedRecord => runSteps steps parsedRecord
    | .error e => (parsedRecord, some e)

def recordSteps (record : Json) : List (ParsedRecord → Except PyError ParsedRecord) :=
  [getSeverity record, getCloudProvider, getTimestamp record, getLogSource record]

def resourceSteps (resource : Json) : List (ParsedRecord → Except PyError ParsedRecord) :=
  [getResourceType resource, getCloudRegion resource, getGcpProjectId resource,
    getGcpInstanceId resource]

def applyCommonRules (record : Json) (parsedRecord : ParsedRecord) :
    ParsedRecord × Option PyError :=
  match runSteps (recordSteps record) parsedRecord with
  | (parsedRecord, some e) => (parsedRecord, some e)
  | (parsedRecord, none) =>
    match record.get "resource" .null with
    | .error e => (parsedRecord, some e)
    | .ok resource =>
      if resource.truthy then runSteps (resourceSteps resource) parsedRecord
      else (parsedRecord, none)

def resourceLabels : Json → Option (List (Text × Json))
  | .map resource =>
    match resource.lookup "labels".toList with
    | none => some []
    | some (.map labels) => some labels
    | some _ => none
  | _ => none

def instanceIdReadable (labels : List (Text × Json)) : Bool :=
  match labels.lookup "instance_id".toList with
  | none => true
  | some instanceId => !instanceId.truthy || instanceId.len.isOk

def resourceReadable (resource : Json) : Bool := (resourceLabels resource).any instanceIdReadable

def commonAttributesReadable : Json → Bool
  | .map entries =>
    match entries.lookup "resource".toList with
    | none => true
    | some resource => !resource.truthy || resourceReadable resource
  | _ => false

def resourceKeys : List Text :=
  ["gcp.resource.type".toList, "gcp.region".toList, "cloud.region".toList,
    "gcp.project.id".toList, "gcp.instance.id".toList]

def commonKeys : List Text :=
  ["severity".toList, "cloud.provider".toList, "timestamp".toList, "log.source".toList] ++
    resourceKeys

section

variable {step : ParsedRecord → Except PyError ParsedRecord}
  {steps : List (ParsedRecord → Except PyError ParsedRecord)} {record resource : Json}
  {parsedRecord : ParsedRecord}

def Succeeds (step : ParsedRecord → Except PyError ParsedRecord) : Prop :=
  ∀ before, ∃ after, step before = .ok after

def Fails (step : ParsedRecord → Except PyError ParsedRecord) : Prop :=
  ∀ before, ∃ e, step before = .error e

def WritesOnly (keys : List Text) (step : ParsedRecord → Except PyError ParsedRecord) : Prop :=
  ∀ before after, step before = .ok after → ∀ k ∉ keys, after.get k = before.get k

theorem runSteps_succeeds (h : ∀ step ∈ steps, Succeeds step) (parsedRecord : ParsedRecord) :
    (runSteps steps parsedRecord).2 = none := by
  induction steps generalizing parsedRecord with
  | nil => rfl
  | cons step steps ih =>
    obtain ⟨after, hafter⟩ := h step List.mem_cons_self parsedRecord
    simp only [runSteps, hafter]
    apply ih
    intro step hstep
    exact h step (List.mem_cons_of_mem _ hstep)

theorem runSteps_fails (hmem : step ∈ steps) (h : Fails step) :
    (runSteps steps parsedRecord).2 ≠ none := by
  induction steps generalizing parsedRecord with
  | nil => contradiction
  | cons first steps ih =>
    rw [runSteps]
    cases hfirst : first parsedRecord with
    | error e => simp
    | ok after =>
      rcases List.mem_cons.mp hmem with rfl | hmem
      · obtain ⟨e, he⟩ := h parsedRecord
        rw [he] at hfirst
        contradiction
      · exact ih hmem

theorem runSteps_get {keys : List Text} (h : ∀ step ∈ steps, WritesOnly keys step) {k : Text}
    (hk : k ∉ keys) (parsedRecord : ParsedRecord) :
    (runSteps steps parsedRecord).1.get k = parsedRecord.get k := by
  induction steps generalizing parsedRecord with
  | nil => rfl
  | cons step steps ih =>
    rw [runSteps]
    cases hstep : step parsedRecord with
    | error e => rfl
    | ok after =>
      dsimp only
      rw [ih (fun step hmem => h step (List.mem_cons_of_mem _ hmem)),
        h step List.mem_cons_self _ _ hstep k hk]

theorem writesOnly_bind {α : Type} {keys : List Text} {value : Except PyError α}
    {next : α → ParsedRecord → Except PyError ParsedRecord} (h : ∀ a, WritesOnly keys (next a)) :
    WritesOnly keys (fun before => value >>= fun a => next a before) := by
  intro before after hstep
  cases hvalue : value with
  | error e =>
    rw [hvalue] at hstep
    cases hstep
  | ok a =>
    rw [hvalue] at hstep
    exact h a before after hstep

theorem writesOnly_skip (keys : List Text) : WritesOnly keys (fun before => .ok before) := by
  intro before after hstep k hk
  cases hstep
  rfl

theorem WritesOnly.set {keys : List Text} {key : Text} {first : ParsedRecord → ParsedRecord}
    (h : WritesOnly keys (fun before => .ok (first before))) (value : Json) (hkey : key ∈ keys) :
    WritesOnly keys (fun before => .ok ((first before).set key value)) := by
  intro before after hstep k hk
  have hne : k ≠ key := by
    rintro rfl
    exact hk hkey
  cases hstep
  rw [OrderedDict.get_set_of_ne _ _ hne]
  exact h before _ rfl k hk

theorem writesOnly_set {keys : List Text} {key : Text} (value : Json) (hkey : key ∈ keys) :
    WritesOnly keys (fun before => .ok (before.set key value)) :=
  (writesOnly_skip keys).set value hkey

theorem writesOnly_ite {keys : List Text} {p : Prop} [Decidable p]
    {yes no : ParsedRecord → ParsedRecord} (hyes : WritesOnly keys (fun before => .ok (yes before)))
    (hno : WritesOnly keys (fun before => .ok (no before))) :
    WritesOnly keys (fun before => .ok (if p then yes before else no before)) := by
  split_ifs
  · exact hyes
  · exact hno

theorem writesOnly_copyIfPresent {keys : List Text} {key : String} (name : String)
    (hkey : key.toList ∈ keys) (record : Json) :
    WritesOnly keys (copyIfPresent name key record) := by
  apply writesOnly_bind
  intro present
  cases present with
  | true => exact writesOnly_bind (fun value => writesOnly_set value hkey)
  | false => exact writesOnly_skip keys

theorem recordSteps_writesOnly (record : Json) :
    ∀ step ∈ recordSteps record, WritesOnly commonKeys step := by
  simp only [recordSteps, List.forall_mem_cons, List.not_mem_nil, false_implies, implies_true,
    and_true]
  refine ⟨?_, ?_, ?_, ?_⟩
  · exact writesOnly_bind (fun severity => writesOnly_set severity (by simp [commonKeys]))
  · exact writesOnly_set _ (by simp [commonKeys])
  · exact writesOnly_copyIfPresent _ (by simp [commonKeys]) record
  · exact writesOnly_copyIfPresent _ (by simp [commonKeys]) record

theorem resourceSteps_writesOnly :
    ∀ step ∈ resourceSteps resource, WritesOnly resourceKeys step := by
  simp only [resourceSteps, List.forall_mem_cons, List.not_mem_nil, false_implies, implies_true,
    and_true]
  refine ⟨?_, ?_, ?_, ?_⟩
  · apply writesOnly_bind
    intro resourceType
    exact writesOnly_ite (writesOnly_set _ (by simp [resourceKeys])) (writesOnly_skip _)
  · apply writesOnly_bind
    intro region
    apply writesOnly_bind
    intro regionOrLocation
    apply writesOnly_bind
    intro gcpRegion
    refine writesOnly_ite ?_ (writesOnly_skip _)
    exact (writesOnly_set gcpRegion (by simp [resourceKeys])).set gcpRegion (by simp [resourceKeys])
  · apply writesOnly_bind
    intro projectId
    exact writesOnly_ite (writesOnly_set _ (by simp [resourceKeys])) (writesOnly_skip _)
  · apply writesOnly_bind
    intro instanceId
    split_ifs
    · apply writesOnly_bind
      intro length
      exact writesOnly_ite (writesOnly_set _ (by simp [resourceKeys])) (writesOnly_skip _)
    · exact writesOnly_skip _

theorem applyCommonRules_get {k : Text} (hk : k ∉ commonKeys) :
    (applyCommonRules record parsedRecord).1.get k = parsedRecord.get k := by
  have hrecord := runSteps_get (recordSteps_writesOnly record) hk parsedRecord
  rw [applyCommonRules]
  cases hrun : runSteps (recordSteps record) parsedRecord with
  | mk after error =>
    rw [hrun] at hrecord
    cases error with
    | some e => exact hrecord
    | none =>
      cases hresource : record.get "resource" .null with
      | error e => exact hrecord
      | ok resource =>
        dsimp only
        split_ifs
        · rw [runSteps_get resourceSteps_writesOnly (fun h => hk (List.mem_append_right _ h))]
          exact hrecord
        · exact hrecord

theorem resourceLabel_of_labels {labels : List (Text × Json)}
    (h : resourceLabels resource = some labels) (name : String) :
    resourceLabel resource name = .ok ((labels.lookup name.toList).getD .null) := by
  cases resource with
  | map entries =>
    simp only [resourceLabels] at h
    cases hlabels : entries.lookup "labels".toList with
    | none =>
      rw [hlabels] at h
      cases h
      simp only [resourceLabel, Json.get, hlabels, Option.getD_none]
      rfl
    | some value =>
      rw [hlabels] at h
      cases value <;> cases h
      simp only [resourceLabel, Json.get, hlabels, Option.getD_some]
      rfl
  | _ => cases h

theorem resourceLabel_error (h : resourceLabels resource = none) (name : String) :
    ∃ e, resourceLabel resource name = .error e := by
  cases resource with
  | map entries =>
    simp only [resourceLabels] at h
    cases hlabels : entries.lookup "labels".toList with
    | none =>
      rw [hlabels] at h
      cases h
    | some value =>
      rw [hlabels] at h
      simp only [resourceLabel, Json.get, hlabels, Option.getD_some]
      cases value <;> first | exact ⟨_, rfl⟩ | cases h
  | _ => exact ⟨_, rfl⟩

theorem succeeds_bind {α : Type} {value : Except PyError α} {a : α}
    {next : α → ParsedRecord → Except PyError ParsedRecord} (hvalue : value = .ok a)
    (h : Succeeds (next a)) : Succeeds (fun before => value >>= fun a => next a before) := by
  subst hvalue
  exact h

theorem succeeds_ok (f : ParsedRecord → ParsedRecord) : Succeeds (fun before => .ok (f before)) :=
  fun before => ⟨f before, rfl⟩

theorem resourceSteps_succeed (h : resourceReadable resource = true) :
    ∀ step ∈ resourceSteps resource, Succeeds step := by
  obtain ⟨labels, hlabels, hinstance⟩ := (Option.any_eq_true _ _).mp h
  have hlabel := resourceLabel_of_labels hlabels
  simp only [resourceSteps, List.forall_mem_cons, List.not_mem_nil, false_implies, implies_true,
    and_true]
  refine ⟨?_, ?_, ?_, ?_⟩
  · cases resource with
    | map entries => exact succeeds_bind rfl (succeeds_ok _)
    | _ => cases hlabels
  · have horElse : ∀ (a : Json) (name : String), ∃ b, orElse a (resourceLabel resource name) =
        .ok b := by
      intro a name
      rw [orElse, hlabel]
      split_ifs <;> exact ⟨_, rfl⟩
    obtain ⟨regionOrLocation, hlocation⟩ :=
      horElse ((labels.lookup "region".toList).getD .null) "location"
    obtain ⟨gcpRegion, hzone⟩ := horElse regionOrLocation "zone"
    exact succeeds_bind (hlabel "region")
      (succeeds_bind hlocation (succeeds_bind hzone (succeeds_ok _)))
  · exact succeeds_bind (hlabel "project_id") (succeeds_ok _)
  · apply succeeds_bind (hlabel "instance_id")
    rw [instanceIdReadable] at hinstance
    cases hid : labels.lookup "instance_id".toList with
    | none => exact succeeds_ok id
    | some instanceId =>
      simp only [hid, Option.getD_some] at hinstance ⊢
      cases htruthy : instanceId.truthy with
      | false => exact succeeds_ok id
      | true =>
        cases hlen : instanceId.len with
        | ok length => exact succeeds_ok _
        | error e => simp [htruthy, hlen, Except.isOk, Except.toBool] at hinstance

theorem resourceSteps_fail (h : resourceReadable resource = false) :
    ∃ step ∈ resourceSteps resource, Fails step := by
  cases hlabels : resourceLabels resource with
  | none =>
    -- every step that reads a label raises here; the one for the project reads just one
    obtain ⟨e, he⟩ := resourceLabel_error hlabels "project_id"
    refine ⟨getGcpProjectId resource, by simp [resourceSteps], ?_⟩
    intro before
    refine ⟨e, ?_⟩
    rw [getGcpProjectId, he]
    rfl
  | some labels =>
    rw [resourceReadable, hlabels] at h
    change instanceIdReadable labels = false at h
    refine ⟨getGcpInstanceId resource, by simp [resourceSteps], ?_⟩
    intro before
    rw [getGcpInstanceId, resourceLabel_of_labels hlabels]
    rw [instanceIdReadable] at h
    cases hid : labels.lookup "instance_id".toList with
    | none =>
      rw [hid] at h
      contradiction
    | some instanceId =>
      simp only [hid, Bool.or_eq_false_iff, Bool.not_eq_false'] at h
      cases hlen : instanceId.len with
      | ok length => simp [hlen, Except.isOk, Except.toBool] at h
      | error e =>
        refine ⟨e, ?_⟩
        change (if instanceId.truthy = true then instanceId.len >>= _ else _) = _
        rw [if_pos h.1, hlen]
        rfl

theorem copyIfPresent_of_object (name key : String) (entries : List (Text × Json)) :
    copyIfPresent name key (.map entries) parsedRecord =
      .ok ((entries.lookup name.toList).elim parsedRecord (parsedRecord.set key.toList)) := by
  simp only [copyIfPresent, Json.contains, Json.item]
  cases entries.lookup name.toList <;> rfl

theorem recordSteps_of_object (entries : List (Text × Json)) :
    ∀ step ∈ recordSteps (.map entries), Succeeds step := by
  have hcopy : ∀ name key, Succeeds (copyIfPresent name key (.map entries)) := by
    intro name key before
    exact ⟨_, copyIfPresent_of_object name key entries⟩
  simp only [recordSteps, List.forall_mem_cons, List.not_mem_nil, false_implies, implies_true,
    and_true]
  exact ⟨succeeds_bind rfl (succeeds_ok _), succeeds_ok _, hcopy _ _, hcopy _ _⟩

theorem applyCommonRules_succeeds_iff (record : Json) (parsedRecord : ParsedRecord) :
    (applyCommonRules record parsedRecord).2 = none ↔ commonAttributesReadable record = true := by
  rw [applyCommonRules]
  cases record with
  | map entries =>
    have hrun := runSteps_succeeds (recordSteps_of_object entries) parsedRecord
    cases hsteps : runSteps (recordSteps (.map entries)) parsedRecord with
    | mk after error =>
      rw [hsteps] at hrun
      cases hrun
      simp only [Json.get, commonAttributesReadable]
      cases hresource : entries.lookup "resource".toList with
      | none => simp [Json.truthy]
      | some resource =>
        simp only [Option.getD_some]
        cases htruthy : resource.truthy with
        | false => simp
        | true =>
          cases hreadable : resourceReadable resource with
          | true => simp [runSteps_succeeds (resourceSteps_succeed hreadable)]
          | false =>
            obtain ⟨step, hmem, hfails⟩ := resourceSteps_fail hreadable
            simp [runSteps_fails hmem hfails]
  | _ => simp [recordSteps, runSteps, getSeverity, Json.get, commonAttributesReadable, bind,
      Except.bind]

theorem object_of_readable (h : commonAttributesReadable record = true) :
    ∃ entries, record = .map entries := by
  cases record with
  | map entries => exact ⟨entries, rfl⟩
  | _ => cases h

theorem recordSteps_timestamp (entries : List (Text × Json)) (parsedRecord : ParsedRecord) :
    (runSteps (recordSteps (.map entries)) parsedRecord).1.get "timestamp".toList =
      (entries.lookup "timestamp".toList).or (parsedRecord.get "timestamp".toList) := by
  have hseverity : getSeverity (.map entries) parsedRecord =
      .ok (parsedRecord.set "severity".toList
        ((entries.lookup "severity".toList).getD (.str "INFO".toList))) := rfl
  simp only [recordSteps, runSteps, hseverity, getCloudProvider, getTimestamp, getLogSource,
    copyIfPresent_of_object]
  cases htimestamp : entries.lookup "timestamp".toList with
  | none => cases entries.lookup "logName".toList <;> simp [OrderedDict.get_set_of_ne]
  | some value =>
    cases entries.lookup "logName".toList <;>
      simp [OrderedDict.get_set_of_ne, OrderedDict.get_set_self]

theorem applyCommonRules_timestamp (entries : List (Text × Json)) :
    (applyCommonRules (.map entries) parsedRecord).1.get "timestamp".toList =
      (entries.lookup "timestamp".toList).or (parsedRecord.get "timestamp".toList) := by
  have hrecord := recordSteps_timestamp entries parsedRecord
  have hrun := runSteps_succeeds (recordSteps_of_object entries) parsedRecord
  rw [applyCommonRules]
  cases hsteps : runSteps (recordSteps (.map entries)) parsedRecord with
  | mk after error =>
    rw [hsteps] at hrecord hrun
    cases hrun
    simp only [Json.get]
    split_ifs
    · rw [runSteps_get resourceSteps_writesOnly (by simp [resourceKeys])]
      exact hrecord
    · exact hrecord

end

end GcpMonitor.Logs
