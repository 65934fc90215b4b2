import GcpMonitor.Logs.ProcessMessage
import GcpMonitor.Python.JsonRoundTrip

namespace GcpMonitor.Logs

open Python Json

section Kept

variable {R : PyRepr} {float : Text → PyFloat}

theorem kept_get {value default result : Json} {key : String} (hvalue : value.Kept R float)
    (hdefault : default.Kept R float) (h : value.get key default = .ok result) :
    result.Kept R float := by
  cases value with
  | map entries =>
    rw [Json.get] at h
    cases hlookup : entries.lookup key.toList with
    | none =>
      rw [hlookup] at h
      cases h
      exact hdefault
    | some found =>
      rw [hlookup] at h
      cases h
      exact kept_lookup hvalue.2 hlookup
  | _ => cases h

theorem kept_item {value result : Json} {key : String} (hvalue : value.Kept R float)
    (h : value.item key = .ok result) : result.Kept R float := by
  cases value with
  | map entries =>
    rw [Json.item] at h
    cases hlookup : entries.lookup key.toList with
    | none =>
      rw [hlookup] at h
      cases h
    | some found =>
      rw [hlookup] at h
      cases h
      exact kept_lookup hvalue.2 hlookup
  | _ => cases h

def KeptValues (R : PyRepr) (float : Text → PyFloat) (parsedRecord : ParsedRecord) : Prop :=
  ∀ k value, parsedRecord.get k = some value → value.Kept R float

theorem KeptValues.set {parsedRecord : ParsedRecord} (h : KeptValues R float parsedRecord)
    {value : Json} (hvalue : value.Kept R float) (key : Text) :
    KeptValues R float (parsedRecord.set key value) := by
  intro k found hfound
  by_cases hk : k = key
  · rw [hk, OrderedDict.get_set_self] at hfound
    cases hfound
    exact hvalue
  · rw [OrderedDict.get_set_of_ne _ _ hk] at hfound
    exact h k found hfound

theorem KeptValues.kept {parsedRecord : ParsedRecord} (h : KeptValues R float parsedRecord) :
    (Json.map parsedRecord.entries).Kept R float := by
  refine ⟨parsedRecord.nodup, keptEntries_iff.mpr ?_⟩
  intro entry hentry
  exact h entry.1 entry.2 (OrderedDict.get_of_mem_entries hentry)

def KeepsValues (R : PyRepr) (float : Text → PyFloat)
    (step : ParsedRecord → Except PyError ParsedRecord) : Prop :=
  ∀ before after, KeptValues R float before → step before = .ok after → KeptValues R float after

theorem keepsValues_skip : KeepsValues R float (fun before => .ok before) := by
  intro before after hbefore hstep
  cases hstep
  exact hbefore

theorem keepsValues_set {value : Json} (hvalue : value.Kept R float) (key : Text) :
    KeepsValues R float (fun before => .ok (before.set key value)) := by
  intro before after hbefore hstep
  cases hstep
  exact hbefore.set hvalue key

theorem keepsValues_ite {p : Prop} [Decidable p] {yes : ParsedRecord → ParsedRecord}
    (h : KeepsValues R float (fun before => .ok (yes before))) :
    KeepsValues R float (fun before => .ok (if p then yes before else before)) := by
  split_ifs
  · exact h
  · exact keepsValues_skip

theorem keepsValues_bind {α : Type} {value : Except PyError α}
    {next : α → ParsedRecord → Except PyError ParsedRecord}
    (h : ∀ a, value = .ok a → KeepsValues R float (next a)) :
    KeepsValues R float (fun before => value >>= fun a => next a before) := by
  intro before after hbefore hstep
  cases hvalue : value with
  | error e =>
    rw [hvalue] at hstep
    cases hstep
  | ok a =>
    rw [hvalue] at hstep
    exact h a hvalue before after hbefore hstep

theorem keepsValues_copyIfPresent {record : Json} (hrecord : record.Kept R float)
    (name key : String) : KeepsValues R float (copyIfPresent name key record) := by
  apply keepsValues_bind
  intro present _
  cases present with
  | true =>
    exact keepsValues_bind (fun value hvalue => keepsValues_set (kept_item hrecord hvalue) _)
  | false => exact keepsValues_skip

theorem recordSteps_keepValues {record : Json} (hrecord : record.Kept R float) :
    ∀ step ∈ recordSteps record, KeepsValues R float step := by
  simp only [recordSteps, List.forall_mem_cons, List.not_mem_nil, false_implies, implies_true,
    and_true]
  refine ⟨?_, ?_, ?_, ?_⟩
  · exact keepsValues_bind (fun severity hseverity =>
      keepsValues_set (kept_get hrecord (kept_str _) hseverity) _)
  · exact keepsValues_set (kept_str _) _
  · exact keepsValues_copyIfPresent hrecord _ _
  · exact keepsValues_copyIfPresent hrecord _ _

theorem kept_resourceLabel {resource value : Json} {name : String}
    (hresource : resource.Kept R float) (h : resourceLabel resource name = .ok value) :
    value.Kept R float := by
  rw [resourceLabel] at h
  cases hlabels : resource.get "labels" (.map []) with
  | error e =>
    rw [hlabels] at h
    cases h
  | ok labels =>
    rw [hlabels] at h
    have hempty : (Json.map []).Kept R float := ⟨List.nodup_nil, trivial⟩
    exact kept_get (kept_get hresource hempty hlabels) kept_null h

theorem kept_orElse {a value : Json} {b : Except PyError Json} (ha : a.Kept R float)
    (hb : ∀ value, b = .ok value → value.Kept R float) (h : orElse a b = .ok value) :
    value.Kept R float := by
  rw [orElse] at h
  split_ifs at h
  · cases h
    exact ha
  · exact hb value h

theorem resourceSteps_keepValues {resource : Json} (hresource : resource.Kept R float) :
    ∀ step ∈ resourceSteps resource, KeepsValues R float step := by
  have hlabel : ∀ name value, resourceLabel resource name = .ok value → value.Kept R float :=
    fun name value h => kept_resourceLabel hresource h
  simp only [resourceSteps, List.forall_mem_cons, List.not_mem_nil, false_implies, implies_true,
    and_true]
  refine ⟨?_, ?_, ?_, ?_⟩
  · apply keepsValues_bind
    intro resourceType htype
    exact keepsValues_ite (keepsValues_set (kept_get hresource kept_null htype) _)
  · apply keepsValues_bind
    intro region hregion
    apply keepsValues_bind
    intro regionOrLocation hlocation
    apply keepsValues_bind
    intro gcpRegion hgcpRegion
    have hkept := kept_orElse (kept_orElse (hlabel _ _ hregion) (hlabel _) hlocation) (hlabel _)
      hgcpRegion
    apply keepsValues_ite
    intro before after hbefore hstep
    cases hstep
    exact (hbefore.set hkept _).set hkept _
  · apply keepsValues_bind
    intro projectId hprojectId
    exact keepsValues_ite (keepsValues_set (hlabel _ _ hprojectId) _)
  · apply keepsValues_bind
    intro instanceId hinstanceId
    split_ifs
    · apply keepsValues_bind
      intro length _
      exact keepsValues_ite (keepsValues_set (hlabel _ _ hinstanceId) _)
    · exact keepsValues_skip

theorem runSteps_keepValues {steps : List (ParsedRecord → Except PyError ParsedRecord)}
    (h : ∀ step ∈ steps, KeepsValues R float step) {parsedRecord : ParsedRecord}
    (hkept : KeptValues R float parsedRecord) :
    KeptValues R float (runSteps steps parsedRecord).1 := by
  induction steps generalizing parsedRecord with
  | nil => exact hkept
  | cons step steps ih =>
    obtain ⟨hstep, hsteps⟩ := List.forall_mem_cons.mp h
    rw [runSteps]
    cases hnext : step parsedRecord with
    | error e => exact hkept
    | ok after => exact ih hsteps (hstep _ _ hkept hnext)

theorem applyCommonRules_keepsValues {record : Json} (hrecord : record.Kept R float)
    {parsedRecord : ParsedRecord} (hkept : KeptValues R float parsedRecord) :
    KeptValues R float (applyCommonRules record parsedRecord).1 := by
  have hrun := runSteps_keepValues (recordSteps_keepValues hrecord) hkept
  rw [applyCommonRules]
  cases hrecordSteps : runSteps (recordSteps record) parsedRecord with
  | mk after error =>
    rw [hrecordSteps] at hrun
    cases error with
    | some e => exact hrun
    | none =>
      cases hresource : record.get "resource" .null with
      | error e => exact hrun
      | ok resource =>
        dsimp only
        split_ifs
        · exact runSteps_keepValues
            (resourceSteps_keepValues (kept_get hrecord kept_null hresource)) hrun
        · exact hrun

end Kept

/-- What comes from elsewhere hands on values as Python has them: `json.loads` is the one that
`loads` describes, and JMESPath makes values of values. -/
structure PythonValues (env : LogRuntime) (engine : MetadataEngine) (float : Text → PyFloat) :
    Prop where
  floats : FloatsReadBack env.pyRepr float
  loads : ∀ text value, env.loads text = .ok value → Json.loads float text = some value
  search : ∀ pattern record value, record.Kept env.pyRepr float →
    env.search pattern record = .ok value → value.Kept env.pyRepr float
  securityContext : engine.dtSecurityContext.Kept env.pyRepr float

section Payload

variable {env : LogRuntime} {settings : LogSettings} {engine : MetadataEngine}
  {float : Text → PyFloat} {record : Json} {parsedRecord : ParsedRecord}

theorem PythonValues.applyRule (h : PythonValues env engine float)
    (hrecord : record.Kept env.pyRepr float) (hkept : KeptValues env.pyRepr float parsedRecord)
    (rule : ConfigRule) :
    KeptValues env.pyRepr float (applyRule env.toRuleRuntime record parsedRecord rule) := by
  rw [Logs.applyRule]
  refine List.foldlRecOn (motive := KeptValues env.pyRepr float) _ _ hkept ?_
  intro before hbefore attr _
  rw [applyAttribute]
  cases hfound : env.search attr.pattern record with
  | error e => exact hbefore
  | ok value =>
    dsimp only
    split_ifs
    · exact hbefore.set (h.search _ _ _ hrecord hfound) _
    · exact hbefore

theorem keptValues_empty {R : PyRepr} : KeptValues R float .empty := by
  intro k value hvalue
  contradiction

theorem PythonValues.apply (h : PythonValues env engine float)
    (hrecord : record.Kept env.pyRepr float) :
    KeptValues env.pyRepr float (engine.apply env.toRuleRuntime record .empty) := by
  have hcommon := applyCommonRules_keepsValues hrecord (keptValues_empty (R := env.pyRepr))
  cases hreadable : commonAttributesReadable record with
  | false =>
    rw [MetadataEngine.apply_of_unreadable env.toRuleRuntime hreadable]
    exact hcommon
  | true =>
    rw [MetadataEngine.apply_of_readable env.toRuleRuntime hreadable]
    refine List.foldlRecOn (motive := KeptValues env.pyRepr float) _ _
      (hcommon.set h.securityContext _) ?_
    intro before hbefore rule _
    exact h.applyRule hrecord hbefore rule

theorem setCloudLogForwarder_keepsValues {R : PyRepr} (hkept : KeptValues R float parsedRecord) :
    KeptValues R float (setCloudLogForwarder settings parsedRecord) := by
  rw [setCloudLogForwarder]
  split_ifs
  · exact hkept.set (kept_str _) _
  · exact hkept
  · exact hkept.set (kept_str _) _
  · exact hkept

theorem limitLengths_keepsValues (hkept : KeptValues env.pyRepr float parsedRecord)
    (sfm : LogSelfMonitoring) :
    KeptValues env.pyRepr float (limitLengths env settings parsedRecord sfm).1 := by
  intro k value hvalue
  by_cases hk : k = "content".toList
  · rw [hk, limitLengths_content] at hvalue
    obtain ⟨content, hcontent, rfl⟩ := Option.map_eq_some_iff.mp hvalue
    split_ifs
    · exact kept_str _
    · exact hkept _ content hcontent
  · rw [limitLengths_get hk] at hvalue
    obtain ⟨before, hbefore, rfl⟩ := Option.map_eq_some_iff.mp hvalue
    rw [trimAttribute]
    split_ifs
    · exact kept_str _
    · exact hkept k before hbefore

theorem PythonValues.loadRecord (h : PythonValues env engine float) {messageData : Text}
    (hrecord : loadRecord env messageData = .ok record) : record.Kept env.pyRepr float := by
  rw [Logs.loadRecord] at hrecord
  split at hrecord
  · cases hrecord
    exact ⟨by simp, kept_str _, trivial⟩
  · exact kept_of_loads h.floats (h.loads _ _ hrecord)

theorem PythonValues.payload (h : PythonValues env engine float) {publishTime : Json} {now : ℚ}
    {sfm sfm' : LogSelfMonitoring} {messageData : Text} {payload : ParsedRecord}
    (hpublish : publishTime.Kept env.pyRepr float)
    (hpayload : createDtLogPayload env settings engine publishTime now sfm messageData =
      (.ok (some payload), sfm')) : (Json.map payload.entries).Kept env.pyRepr float := by
  obtain ⟨parsedRecord, before, hparsed, hlimit⟩ := createDtLogPayload_some hpayload
  obtain ⟨record, hrecord, hcases⟩ := createParsedRecord_ok hparsed
  have happly := h.apply (h.loadRecord hrecord)
  have hkept : KeptValues env.pyRepr float parsedRecord := by
    obtain ⟨-, -, rfl⟩ | ⟨-, -, rfl⟩ := hcases
    · exact setCloudLogForwarder_keepsValues (happly.set hpublish _)
    · exact setCloudLogForwarder_keepsValues happly
  have hlimited : KeptValues env.pyRepr float (limitLengths env settings parsedRecord before).1 :=
    limitLengths_keepsValues hkept before
  rw [← hlimit] at hlimited
  exact hlimited.kept

def PayloadOf (env : LogRuntime) (settings : LogSettings) (engine : MetadataEngine)
    (arrived : ArrivedMessage) (payload : ParsedRecord) : Prop :=
  ∃ publishTime data sfm, arrived.message.get "publishTime" .null = .ok publishTime ∧
    decodeData env arrived.message = .ok data ∧
    createDtLogPayload env settings engine publishTime arrived.now {} data =
      (.ok (some payload), sfm)

theorem payloadOf_of_processMessage {arrived : ArrivedMessage} {text : String}
    {sfm : LogSelfMonitoring}
    (h : processMessage env settings engine arrived = .payload text sfm) :
    ∃ payload, PayloadOf env settings engine arrived payload ∧
      text = String.ofList ((Json.map payload.entries).dumps env.pyRepr) := by
  rw [processMessage] at h
  cases hpublish : arrived.message.get "publishTime" .null with
  | error e =>
    rw [hpublish] at h
    cases h
  | ok publishTime =>
    cases hdata : decodeData env arrived.message with
    | error e =>
      simp only [hpublish, hdata] at h
      cases h
    | ok data =>
      simp only [hpublish, hdata] at h
      split at h
      · cases h
      · cases h
      · rename_i payload sfm' hpayload
        split_ifs at h
        cases h
        exact ⟨payload, ⟨publishTime, data, _, hpublish, hdata, hpayload⟩, rfl⟩

theorem PythonValues.payloadOf (h : PythonValues env engine float) {arrived : ArrivedMessage}
    (hmessage : arrived.message.Kept env.pyRepr float) {payload : ParsedRecord}
    (hpayload : PayloadOf env settings engine arrived payload) :
    (Json.map payload.entries).Kept env.pyRepr float := by
  obtain ⟨publishTime, data, sfm, hpublish, -, hcreated⟩ := hpayload
  exact h.payload (kept_get hmessage kept_null hpublish) hcreated

end Payload

end GcpMonitor.Logs
