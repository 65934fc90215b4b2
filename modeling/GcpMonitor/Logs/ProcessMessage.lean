import GcpMonitor.Logs.MetadataEngine
import GcpMonitor.Logs.PullAndPush

namespace GcpMonitor.Logs

open Python

/-- What `ciso8601.parse_datetime` makes of a text, with a zone or without one. -/
inductive PyDatetime where
  | aware (instant : ℚ)
  | naive (clock : ℚ)
  deriving DecidableEq

structure LogRuntime extends RuleRuntime where
  b64decode : Json → Except PyError (List UInt8)
  decodeUtf8 : List UInt8 → Except PyError Text
  loads : Text → Except PyError Json
  /-- none where `ciso8601` raises `ValueError` -/
  parseDatetime : Text → Option PyDatetime

/-- `get_int_environment_value` gives no negative numbers. -/
structure LogSettings where
  contentLengthLimit : ℕ
  attributeValueLengthLimit : ℕ
  eventAgeLimitSeconds : ℕ
  cloudLogForwarder : Text
  cloudLogForwarderPod : Text

def contentMarkTrimmed : Text := "[TRUNCATED]".toList

structure ArrivedMessage where
  message : Json
  now : ℚ
  failedAt : ℚ

section

variable (env : LogRuntime) (settings : LogSettings) (engine : MetadataEngine)

def parseDatetime : Json → Except PyError PyDatetime
  | .str s => (env.parseDatetime s).elim (.error (.valueError none)) .ok
  | _ => .error .typeError

def isInvalidDatetime (datetime : Json) : Except PyError Bool :=
  match parseDatetime env datetime with
  | .ok _ => .ok false
  | .error (.valueError _) => .ok true
  | .error e => .error e

def isLogTooOld (timestamp : Json) (now : ℚ) : Except PyError Bool := do
  match ← parseDatetime env timestamp with
  | .aware instant => pure (settings.eventAgeLimitSeconds < now - instant)
  | .naive _ => throw .typeError

def setCloudLogForwarder (parsedRecord : ParsedRecord) : ParsedRecord :=
  let cloudLogForwarder :=
    if settings.cloudLogForwarder ≠ [] ∧ settings.cloudLogForwarderPod ≠ [] then
      settings.cloudLogForwarder ++ "/pods/".toList ++ settings.cloudLogForwarderPod
    else settings.cloudLogForwarder
  if cloudLogForwarder ≠ [] then
    parsedRecord.set "cloud.log_forwarder".toList (.str cloudLogForwarder)
  else parsedRecord

def loadRecord (messageData : Text) : Except PyError Json :=
  match env.loads messageData with
  | .error (.valueError _) => .ok (.map [("content".toList, .str messageData)])
  | result => result

def LogSelfMonitoring.publishTimeFallback (sfm : LogSelfMonitoring) : LogSelfMonitoring :=
  { sfm with publishTimeFallbackRecords := sfm.publishTimeFallbackRecords + 1 }

def LogSelfMonitoring.tooOld (sfm : LogSelfMonitoring) : LogSelfMonitoring :=
  { sfm with tooOldRecords := sfm.tooOldRecords + 1 }

def LogSelfMonitoring.tooLongContent (sfm : LogSelfMonitoring) : LogSelfMonitoring :=
  { sfm with recordsWithTooLongContent := sfm.recordsWithTooLongContent + 1 }

def needsPublishTime (parsedRecord : ParsedRecord) : Except PyError Bool :=
  match parsedRecord.get "timestamp".toList with
  | none => .ok true
  | some timestamp => isInvalidDatetime env timestamp

def createParsedRecord (publishTime : Json) (sfm : LogSelfMonitoring) (messageData : Text) :
    Except PyError (ParsedRecord × LogSelfMonitoring) := do
  let record ← loadRecord env messageData
  let parsedRecord := engine.apply env.toRuleRuntime record .empty
  if ← needsPublishTime env parsedRecord then
    pure (setCloudLogForwarder settings (parsedRecord.set "timestamp".toList publishTime),
      sfm.publishTimeFallback)
  else pure (setCloudLogForwarder settings parsedRecord, sfm)

def trimAttribute (key : Text) (value : Json) : Json :=
  let exempt := ["content".toList, "severity".toList, "timestamp".toList].contains key
  if !exempt && value.truthy then
    .str ((value.toStr env.pyRepr).take settings.attributeValueLengthLimit)
  else value

def trimContent (content : Json) : Text × Bool :=
  let text := match content with
    | .str s => s
    | value => value.dumps env.pyRepr
  if settings.contentLengthLimit < text.length then
    (text.sliceTo (settings.contentLengthLimit - contentMarkTrimmed.length) ++ contentMarkTrimmed,
      true)
  else (text, false)

def limitLengths (parsedRecord : ParsedRecord) (sfm : LogSelfMonitoring) :
    ParsedRecord × LogSelfMonitoring :=
  let parsedRecord := parsedRecord.mapValues (trimAttribute env settings)
  match parsedRecord.get "content".toList with
  | none => (parsedRecord, sfm)
  | some content =>
    if content.truthy then
      let (text, cut) := trimContent env settings content
      (parsedRecord.set "content".toList (.str text), if cut then sfm.tooLongContent else sfm)
    else (parsedRecord, sfm)

/-- The self-monitoring comes back whatever happens, for the context outlives an exception. -/
def createDtLogPayload (publishTime : Json) (now : ℚ) (sfm : LogSelfMonitoring)
    (messageData : Text) : Except PyError (Option ParsedRecord) × LogSelfMonitoring :=
  if messageData.isEmpty then (.ok none, sfm)
  else
    match createParsedRecord env settings engine publishTime sfm messageData with
    | .error e => (.error e, sfm)
    | .ok (parsedRecord, sfm) =>
      match isLogTooOld env settings ((parsedRecord.get "timestamp".toList).getD .null) now with
      | .error e => (.error e, sfm)
      | .ok true => (.ok none, sfm.tooOld)
      | .ok false =>
        let (payload, sfm) := limitLengths env settings parsedRecord sfm
        (.ok (some payload), sfm)

def decodeData (message : Json) : Except PyError Text := do
  let data ← message.get "data" .null
  let bytes ← env.b64decode data
  env.decodeUtf8 bytes

/-- `_process_message` in the context that `prepare_context_and_process_message` makes for it. An
empty payload would be put into the queue like none at all. -/
def processMessage (arrived : ArrivedMessage) : Processed :=
  match arrived.message.get "publishTime" .null with
  | .error _ => .raised {} arrived.failedAt
  | .ok publishTime =>
    match decodeData env arrived.message with
    | .error _ => .raised {} arrived.failedAt
    | .ok data =>
      match createDtLogPayload env settings engine publishTime arrived.now {} data with
      | (.error _, sfm) => .raised sfm arrived.failedAt
      | (.ok none, sfm) => .skipped sfm
      | (.ok (some payload), sfm) =>
        if payload.entries.isEmpty then .skipped sfm
        else .payload (String.ofList ((Json.map payload.entries).dumps env.pyRepr)) sfm

section

variable {env settings engine} {publishTime : Json} {now : ℚ} {sfm sfm' : LogSelfMonitoring}
  {messageData : Text} {record : Json} {parsedRecord : ParsedRecord}

theorem setCloudLogForwarder_get {k : Text} (hk : k ≠ "cloud.log_forwarder".toList)
    (parsedRecord : ParsedRecord) :
    (setCloudLogForwarder settings parsedRecord).get k = parsedRecord.get k := by
  simp only [setCloudLogForwarder]
  split_ifs
  · exact OrderedDict.get_set_of_ne _ _ hk
  · rfl
  · exact OrderedDict.get_set_of_ne _ _ hk
  · rfl

theorem createParsedRecord_ok
    (h : createParsedRecord env settings engine publishTime sfm messageData =
      .ok (parsedRecord, sfm')) :
    ∃ record, loadRecord env messageData = .ok record ∧
      ((needsPublishTime env (engine.apply env.toRuleRuntime record .empty) = .ok true ∧
          sfm' = sfm.publishTimeFallback ∧
          parsedRecord = setCloudLogForwarder settings
            ((engine.apply env.toRuleRuntime record .empty).set "timestamp".toList publishTime)) ∨
        (needsPublishTime env (engine.apply env.toRuleRuntime record .empty) = .ok false ∧
          sfm' = sfm ∧
          parsedRecord =
            setCloudLogForwarder settings (engine.apply env.toRuleRuntime record .empty))) := by
  rw [createParsedRecord] at h
  cases hrecord : loadRecord env messageData with
  | error e =>
    rw [hrecord] at h
    cases h
  | ok record =>
    rw [hrecord] at h
    refine ⟨record, rfl, ?_⟩
    change (needsPublishTime env (engine.apply env.toRuleRuntime record .empty) >>= _) = _ at h
    cases hneeds : needsPublishTime env (engine.apply env.toRuleRuntime record .empty) with
    | error e =>
      rw [hneeds] at h
      cases h
    | ok needed =>
      rw [hneeds] at h
      cases needed with
      | true =>
        cases h
        exact .inl ⟨rfl, rfl, rfl⟩
      | false =>
        cases h
        exact .inr ⟨rfl, rfl, rfl⟩

theorem createParsedRecord_of_needed {needed : Bool}
    (hrecord : loadRecord env messageData = .ok record)
    (hneeds : needsPublishTime env (engine.apply env.toRuleRuntime record .empty) = .ok needed) :
    createParsedRecord env settings engine publishTime sfm messageData =
      .ok (if needed then
        (setCloudLogForwarder settings
          ((engine.apply env.toRuleRuntime record .empty).set "timestamp".toList publishTime),
          sfm.publishTimeFallback)
      else
        (setCloudLogForwarder settings (engine.apply env.toRuleRuntime record .empty), sfm)) := by
  rw [createParsedRecord, hrecord]
  change (needsPublishTime env (engine.apply env.toRuleRuntime record .empty) >>= _) = _
  rw [hneeds]
  cases needed <;> rfl

theorem createParsedRecord_error {e : PyError} (hrecord : loadRecord env messageData = .ok record)
    (hneeds : needsPublishTime env (engine.apply env.toRuleRuntime record .empty) = .error e) :
    createParsedRecord env settings engine publishTime sfm messageData = .error e := by
  rw [createParsedRecord, hrecord]
  change (needsPublishTime env (engine.apply env.toRuleRuntime record .empty) >>= _) = _
  rw [hneeds]
  rfl

theorem createParsedRecord_get
    (h : createParsedRecord env settings engine publishTime sfm messageData =
      .ok (parsedRecord, sfm')) (hrecord : loadRecord env messageData = .ok record) {k : Text}
    (htimestamp : k ≠ "timestamp".toList) (hforwarder : k ≠ "cloud.log_forwarder".toList) :
    parsedRecord.get k = (engine.apply env.toRuleRuntime record .empty).get k := by
  obtain ⟨record', hrecord', hcase⟩ := createParsedRecord_ok h
  rw [hrecord] at hrecord'
  cases hrecord'
  rcases hcase with ⟨-, -, rfl⟩ | ⟨-, -, rfl⟩
  · rw [setCloudLogForwarder_get hforwarder, OrderedDict.get_set_of_ne _ _ htimestamp]
  · rw [setCloudLogForwarder_get hforwarder]

theorem createDtLogPayload_of_parsed (hne : messageData ≠ [])
    (hparsed : createParsedRecord env settings engine publishTime sfm messageData =
      .ok (parsedRecord, sfm')) :
    createDtLogPayload env settings engine publishTime now sfm messageData =
      match isLogTooOld env settings ((parsedRecord.get "timestamp".toList).getD .null) now with
      | .error e => (.error e, sfm')
      | .ok true => (.ok none, sfm'.tooOld)
      | .ok false =>
        (.ok (some (limitLengths env settings parsedRecord sfm').1),
          (limitLengths env settings parsedRecord sfm').2) := by
  rw [createDtLogPayload, if_neg (by simpa using hne), hparsed]

theorem createDtLogPayload_some {payload : ParsedRecord}
    (h : createDtLogPayload env settings engine publishTime now sfm messageData =
      (.ok (some payload), sfm')) :
    ∃ parsedRecord before, createParsedRecord env settings engine publishTime sfm messageData =
        .ok (parsedRecord, before) ∧
      (payload, sfm') = limitLengths env settings parsedRecord before := by
  rw [createDtLogPayload] at h
  split_ifs at h
  · cases h
  · cases hparsed : createParsedRecord env settings engine publishTime sfm messageData with
    | error e =>
      rw [hparsed] at h
      cases h
    | ok result =>
      obtain ⟨parsedRecord, before⟩ := result
      simp only [hparsed] at h
      split at h <;> cases h
      exact ⟨parsedRecord, before, rfl, rfl⟩

theorem limitLengths_get {k : Text} (hk : k ≠ "content".toList) (parsedRecord : ParsedRecord)
    (sfm : LogSelfMonitoring) :
    (limitLengths env settings parsedRecord sfm).1.get k =
      (parsedRecord.get k).map (trimAttribute env settings k) := by
  rw [← OrderedDict.get_mapValues, limitLengths]
  cases (parsedRecord.mapValues (trimAttribute env settings)).get "content".toList with
  | none => rfl
  | some content =>
    dsimp only
    cases content.truthy with
    | true => exact OrderedDict.get_set_of_ne _ _ hk
    | false => rfl

theorem limitLengths_content (parsedRecord : ParsedRecord) (sfm : LogSelfMonitoring) :
    (limitLengths env settings parsedRecord sfm).1.get "content".toList =
      (parsedRecord.get "content".toList).map (fun content =>
        if content.truthy then .str (trimContent env settings content).1 else content) := by
  have hkept : ∀ content, trimAttribute env settings "content".toList content = content := by
    intro content
    rw [trimAttribute, if_neg (by simp)]
  have hget := OrderedDict.get_mapValues parsedRecord (trimAttribute env settings)
    "content".toList
  rw [limitLengths]
  cases hcontent : parsedRecord.get "content".toList with
  | none =>
    rw [hcontent] at hget
    simp only [hget, Option.map_none]
  | some content =>
    rw [hcontent, Option.map_some, hkept] at hget
    simp only [hget, Option.map_some]
    cases content.truthy with
    | true => exact OrderedDict.get_set_self _ _ _
    | false => exact hget

theorem processMessage_of_data {arrived : ArrivedMessage}
    (hpublish : arrived.message.get "publishTime" .null = .ok publishTime)
    (hdata : decodeData env arrived.message = .ok messageData) :
    processMessage env settings engine arrived =
      match createDtLogPayload env settings engine publishTime arrived.now {} messageData with
      | (.error _, sfm) => .raised sfm arrived.failedAt
      | (.ok none, sfm) => .skipped sfm
      | (.ok (some payload), sfm) =>
        if payload.entries.isEmpty then .skipped sfm
        else .payload (String.ofList ((Json.map payload.entries).dumps env.pyRepr)) sfm := by
  rw [processMessage, hpublish]
  simp only [hdata]

end

end

def runtimeFor (messageData : Text) (record : Except PyError Json) (data publishTime : Text)
    (published : ℚ) : LogRuntime where
  search := searchContent
  casefold := fun s => s.map Char.toLower
  pyRepr := ⟨fun s => ['\''] ++ s ++ ['\''], fun _ => "0.0".toList, fun _ => by simp⟩
  b64decode
    | .str s => if s = data then .ok (messageData.map (fun c => .ofNat c.toNat))
      else .error (.valueError none)
    | _ => .error .typeError
  decodeUtf8 := fun bytes => .ok (bytes.map (fun b => .ofNat b.toNat))
  loads := fun text => if text = messageData then record else .error (.valueError none)
  parseDatetime := fun s => if s = publishTime then some (.aware published) else none

def defaultSettings : LogSettings := ⟨8192, 250, 86400, [], []⟩

def publishedAt : Text := "2024-01-01T00:00:00Z".toList

def pubSubMessage (data : Text) : Json :=
  .map [("data".toList, .str data), ("publishTime".toList, .str publishedAt)]

theorem pubSubMessage_publishTime (data : Text) :
    (pubSubMessage data).get "publishTime" .null = .ok (.str publishedAt) := by
  simp [pubSubMessage, Json.get, List.lookup_cons]

def arrivedFor (data : Text) : ArrivedMessage := ⟨pubSubMessage data, 1704067260, 1704067261⟩

end GcpMonitor.Logs
