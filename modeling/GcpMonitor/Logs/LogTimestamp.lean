import GcpMonitor.Logs.ProcessMessage

namespace GcpMonitor.Logs

open Python

variable {AckId : Type}

/-- No loaded rule has an attribute for the timestamp; under `config_logs` only the common rule has
one, which is never applied. -/
def OwnTimestamps (engine : MetadataEngine) : Prop :=
  ∀ rule ∈ engine.loadedRules, ∀ attr ∈ rule.attributes, attr.key ≠ "timestamp".toList

structure FreshObject (env : LogRuntime) (settings : LogSettings) (arrived : ArrivedMessage)
    (entries : List (Text × Json)) : Prop where
  decoded : ∃ messageData, decodeData env arrived.message = .ok messageData ∧ messageData ≠ [] ∧
    env.loads messageData = .ok (.map entries)
  published : ∃ publishTime instant,
    arrived.message.get "publishTime" .null = .ok (.str publishTime) ∧
      env.parseDatetime publishTime = some (.aware instant) ∧
      arrived.now - instant ≤ settings.eventAgeLimitSeconds

def OwnTimestampTooOld (env : LogRuntime) (settings : LogSettings) (arrived : ArrivedMessage)
    (entries : List (Text × Json)) : Prop :=
  ∃ timestamp instant, entries.lookup "timestamp".toList = some (.str timestamp) ∧
    env.parseDatetime timestamp = some (.aware instant) ∧
    settings.eventAgeLimitSeconds < arrived.now - instant

def JobOrTooOld (env : LogRuntime) (settings : LogSettings) (engine : MetadataEngine)
    (sfmQueue : SfmQueue) (message : ReceivedMessage AckId ArrivedMessage)
    (entries : List (Text × Json)) : Prop :=
  (prepareContextAndProcessMessage (processMessage env settings engine) sfmQueue
      message).1.isSome = true ∨
    ((∃ sfm, processMessage env settings engine message.message = .skipped sfm) ∧
      OwnTimestampTooOld env settings message.message entries)

def TextWithZone (env : LogRuntime) (timestamp : Json) : Prop :=
  ∃ s, timestamp = .str s ∧ ∀ clock, env.parseDatetime s ≠ some (.naive clock)

section

variable {env : LogRuntime} {settings : LogSettings} {engine : MetadataEngine}
  {entries : List (Text × Json)}

theorem apply_timestamp (hown : OwnTimestamps engine) (entries : List (Text × Json)) :
    (engine.apply env.toRuleRuntime (.map entries) .empty).get "timestamp".toList =
      entries.lookup "timestamp".toList := by
  rw [MetadataEngine.apply_get _ (by simp) hown, applyCommonRules_timestamp]
  simp [OrderedDict.get_empty]

theorem prepare_isSome_iff {sfmQueue : SfmQueue} {message : ReceivedMessage AckId ArrivedMessage} :
    (prepareContextAndProcessMessage (processMessage env settings engine) sfmQueue
        message).1.isSome = true ↔
      ∃ payload sfm, processMessage env settings engine message.message = .payload payload sfm := by
  rw [prepareContextAndProcessMessage_fst, messageJob]
  cases processMessage env settings engine message.message <;> simp

theorem processMessage_of_parsed {arrived : ArrivedMessage} {publishTime : Json}
    {messageData : Text} (hpublish : arrived.message.get "publishTime" .null = .ok publishTime)
    (hdata : decodeData env arrived.message = .ok messageData) (hne : messageData ≠ [])
    {parsedRecord : ParsedRecord} {sfm : LogSelfMonitoring} {timestamp : Json}
    (hparsed : createParsedRecord env settings engine publishTime {} messageData =
      .ok (parsedRecord, sfm))
    (htimestamp : parsedRecord.get "timestamp".toList = some timestamp) :
    match isLogTooOld env settings timestamp arrived.now with
    | .error _ => processMessage env settings engine arrived = .raised sfm arrived.failedAt
    | .ok true => processMessage env settings engine arrived = .skipped sfm.tooOld
    | .ok false =>
      ∃ payload after, processMessage env settings engine arrived = .payload payload after := by
  have hpayload : createDtLogPayload env settings engine publishTime arrived.now {} messageData =
      _ := createDtLogPayload_of_parsed hne hparsed
  rw [htimestamp, Option.getD_some] at hpayload
  rw [processMessage_of_data hpublish hdata, hpayload]
  cases isLogTooOld env settings timestamp arrived.now with
  | error e => rfl
  | ok tooOld =>
    cases tooOld with
    | true => rfl
    | false =>
      have hget : (limitLengths env settings parsedRecord sfm).1.get "timestamp".toList = _ :=
        limitLengths_get (by simp) parsedRecord sfm
      rw [htimestamp] at hget
      simp only [OrderedDict.entries_isEmpty_of_get hget]
      exact ⟨_, _, rfl⟩

theorem isLogTooOld_of_aware {s : Text} {instant : ℚ}
    (h : env.parseDatetime s = some (.aware instant)) (now : ℚ) :
    isLogTooOld env settings (.str s) now =
      .ok (decide ((settings.eventAgeLimitSeconds : ℚ) < now - instant)) := by
  rw [isLogTooOld, parseDatetime, h]
  rfl

theorem isLogTooOld_of_naive {s : Text} {clock : ℚ}
    (h : env.parseDatetime s = some (.naive clock)) (now : ℚ) :
    isLogTooOld env settings (.str s) now = .error .typeError := by
  rw [isLogTooOld, parseDatetime, h]
  rfl

section

variable {arrived : ArrivedMessage}

theorem needsPublishTime_of_own (hown : OwnTimestamps engine) {timestamp : Json}
    (htimestamp : entries.lookup "timestamp".toList = some timestamp) :
    needsPublishTime env (engine.apply env.toRuleRuntime (.map entries) .empty) =
      isInvalidDatetime env timestamp := by
  rw [needsPublishTime, apply_timestamp hown, htimestamp]

theorem FreshObject.messageData (hfresh : FreshObject env settings arrived entries) :
    ∃ messageData, decodeData env arrived.message = .ok messageData ∧ messageData ≠ [] ∧
      loadRecord env messageData = .ok (.map entries) := by
  obtain ⟨messageData, hdata, hne, hloads⟩ := hfresh.decoded
  refine ⟨messageData, hdata, hne, ?_⟩
  rw [loadRecord, hloads]

theorem processMessage_published (hfresh : FreshObject env settings arrived entries)
    (hneeds : needsPublishTime env
      (engine.apply env.toRuleRuntime (.map entries) .empty) = .ok true) :
    ∃ payload sfm, processMessage env settings engine arrived = .payload payload sfm := by
  obtain ⟨messageData, hdata, hne, hrecord⟩ := hfresh.messageData
  obtain ⟨publishTime, instant, hpublish, hparse, hage⟩ := hfresh.published
  have hparsed : createParsedRecord env settings engine (.str publishTime) {} messageData = _ :=
    createParsedRecord_of_needed hrecord hneeds
  rw [if_pos rfl] at hparsed
  have hresult := processMessage_of_parsed hpublish hdata hne hparsed
    ((setCloudLogForwarder_get (by simp) _).trans (OrderedDict.get_set_self _ _ _))
  rw [isLogTooOld_of_aware hparse, decide_eq_false (not_lt.mpr hage)] at hresult
  exact hresult

theorem processMessage_own (hown : OwnTimestamps engine)
    (hfresh : FreshObject env settings arrived entries) {timestamp : Json}
    (htimestamp : entries.lookup "timestamp".toList = some timestamp)
    (hvalid : isInvalidDatetime env timestamp = .ok false) :
    match isLogTooOld env settings timestamp arrived.now with
    | .error _ => processMessage env settings engine arrived = .raised {} arrived.failedAt
    | .ok true =>
      processMessage env settings engine arrived = .skipped ({} : LogSelfMonitoring).tooOld
    | .ok false =>
      ∃ payload sfm, processMessage env settings engine arrived = .payload payload sfm := by
  obtain ⟨messageData, hdata, hne, hrecord⟩ := hfresh.messageData
  obtain ⟨publishTime, instant, hpublish, -⟩ := hfresh.published
  have hneeds := (needsPublishTime_of_own hown htimestamp).trans hvalid
  have hparsed : createParsedRecord env settings engine (.str publishTime) {} messageData = _ :=
    createParsedRecord_of_needed hrecord hneeds
  rw [if_neg (by simp)] at hparsed
  apply processMessage_of_parsed hpublish hdata hne hparsed
  rw [setCloudLogForwarder_get (by simp), apply_timestamp hown, htimestamp]

theorem processMessage_unreadable (hown : OwnTimestamps engine)
    (hfresh : FreshObject env settings arrived entries) {timestamp : Json} {e : PyError}
    (htimestamp : entries.lookup "timestamp".toList = some timestamp)
    (hinvalid : isInvalidDatetime env timestamp = .error e) :
    processMessage env settings engine arrived = .raised {} arrived.failedAt := by
  obtain ⟨messageData, hdata, hne, hrecord⟩ := hfresh.messageData
  obtain ⟨publishTime, instant, hpublish, -⟩ := hfresh.published
  have hneeds := (needsPublishTime_of_own hown htimestamp).trans hinvalid
  rw [processMessage_of_data hpublish hdata, createDtLogPayload, if_neg (by simpa using hne),
    createParsedRecord_error hrecord hneeds]

end

theorem timestamp_handled_iff (hown : OwnTimestamps engine)
    {message : ReceivedMessage AckId ArrivedMessage} (sfmQueue : SfmQueue)
    (hfresh : FreshObject env settings message.message entries) :
    JobOrTooOld env settings engine sfmQueue message entries ↔
      ∀ timestamp, entries.lookup "timestamp".toList = some timestamp →
        TextWithZone env timestamp := by
  rw [JobOrTooOld, prepare_isSome_iff]
  cases htimestamp : entries.lookup "timestamp".toList with
  | none =>
    refine iff_of_true (.inl (processMessage_published hfresh ?_)) (by simp)
    rw [needsPublishTime, apply_timestamp hown, htimestamp]
  | some timestamp =>
    simp only [Option.some.injEq, forall_eq']
    have hraised : ∀ sfm, processMessage env settings engine message.message =
        .raised sfm message.message.failedAt → ¬ ((∃ payload sfm,
          processMessage env settings engine message.message = .payload payload sfm) ∨
        (∃ sfm, processMessage env settings engine message.message = .skipped sfm) ∧
          OwnTimestampTooOld env settings message.message entries) := by
      intro sfm h
      simp [h]
    cases timestamp with
    | str s =>
      cases hparse : env.parseDatetime s with
      | none =>
        have hinvalid : isInvalidDatetime env (.str s) = .ok true := by
          rw [isInvalidDatetime, parseDatetime, hparse]
          rfl
        refine iff_of_true (.inl (processMessage_published hfresh ?_)) ⟨s, rfl, by simp [hparse]⟩
        rw [needsPublishTime_of_own hown htimestamp, hinvalid]
      | some datetime =>
        have hvalid : isInvalidDatetime env (.str s) = .ok false := by
          rw [isInvalidDatetime, parseDatetime, hparse]
          rfl
        have hresult := processMessage_own hown hfresh htimestamp hvalid
        cases datetime with
        | aware instant =>
          refine iff_of_true ?_ ⟨s, rfl, by simp [hparse]⟩
          rw [isLogTooOld_of_aware hparse] at hresult
          by_cases hold : (settings.eventAgeLimitSeconds : ℚ) < message.message.now - instant
          · rw [decide_eq_true hold] at hresult
            exact .inr ⟨⟨_, hresult⟩, s, instant, htimestamp, hparse, hold⟩
          · rw [decide_eq_false hold] at hresult
            exact .inl hresult
        | naive clock =>
          -- `_is_invalid_datetime` lets it pass, and the subtraction raises
          rw [isLogTooOld_of_naive hparse] at hresult
          refine iff_of_false (hraised _ hresult) ?_
          rintro ⟨s', hs', hzone⟩
          cases hs'
          exact hzone clock hparse
    | _ =>
      -- `_is_invalid_datetime` catches no `TypeError`
      refine iff_of_false (hraised _ (processMessage_unreadable hown hfresh htimestamp rfl)) ?_
      rintro ⟨s, hs, -⟩
      cases hs

end

theorem ownTimestamps_defaultEngine : OwnTimestamps defaultEngine := by
  intro rule hrule attr hattr
  obtain rfl : rule = defaultRule := List.mem_singleton.mp hrule
  obtain rfl : attr = contentOrWholeAttribute := List.mem_singleton.mp hattr
  decide +kernel

def objectRuntime (document data : Text) (entries : List (Text × Json)) : LogRuntime :=
  runtimeFor document (.ok (.map entries)) data publishedAt 1704067200

theorem freshObject_objectRuntime {document data : Text} {entries : List (Text × Json)}
    (hne : document ≠ [])
    (hdata : decodeData (objectRuntime document data entries) (pubSubMessage data) = .ok document) :
    FreshObject (objectRuntime document data entries) defaultSettings (arrivedFor data)
      entries where
  decoded := ⟨document, hdata, hne, if_pos rfl⟩
  published := by
    refine ⟨publishedAt, 1704067200, pubSubMessage_publishTime data, ?_, ?_⟩
    · change (if publishedAt = publishedAt then some (PyDatetime.aware 1704067200) else none) = _
      exact if_pos rfl
    · norm_num [arrivedFor, defaultSettings]

def numberTimestamp : Text := "\x7b\"timestamp\": 5\x7d".toList

def numberTimestampData : Text := "eyJ0aW1lc3RhbXAiOiA1fQ==".toList

theorem number_timestamp_loses_message :
    ¬ ∀ (env : LogRuntime) (settings : LogSettings) (engine : MetadataEngine)
      (sfmQueue : SfmQueue) (message : ReceivedMessage ℕ ArrivedMessage)
      (entries : List (Text × Json)), OwnTimestamps engine →
      FreshObject env settings message.message entries →
      JobOrTooOld env settings engine sfmQueue message entries := by
  intro hclaim
  have hdata : decodeData (objectRuntime numberTimestamp numberTimestampData
      [("timestamp".toList, .int 5)]) (pubSubMessage numberTimestampData) =
        .ok numberTimestamp := by
    decide +kernel
  have hraised : processMessage (objectRuntime numberTimestamp numberTimestampData
      [("timestamp".toList, .int 5)]) defaultSettings defaultEngine
        (arrivedFor numberTimestampData) = .raised {} 1704067261 := by
    decide +kernel
  have hhandled := hclaim _ _ defaultEngine ⟨0, [], 0⟩ ⟨1, arrivedFor numberTimestampData⟩ _
    ownTimestamps_defaultEngine (freshObject_objectRuntime (by decide +kernel) hdata)
  rw [JobOrTooOld, prepare_isSome_iff, hraised] at hhandled
  simp at hhandled

def invalidTimestamp : Text := "\x7b\"timestamp\": \"soon\"\x7d".toList

def invalidTimestampData : Text := "eyJ0aW1lc3RhbXAiOiAic29vbiJ9".toList

theorem timestamp_handled_iff_invalid :
    JobOrTooOld (objectRuntime invalidTimestamp invalidTimestampData
        [("timestamp".toList, .str "soon".toList)]) defaultSettings defaultEngine ⟨0, [], 0⟩
      ⟨1, arrivedFor invalidTimestampData⟩ [("timestamp".toList, .str "soon".toList)] := by
  have hdata : decodeData (objectRuntime invalidTimestamp invalidTimestampData
      [("timestamp".toList, .str "soon".toList)]) (pubSubMessage invalidTimestampData) =
        .ok invalidTimestamp := by
    decide +kernel
  refine (timestamp_handled_iff ownTimestamps_defaultEngine _
    (freshObject_objectRuntime (by decide +kernel) hdata)).mpr ?_
  intro timestamp htimestamp
  obtain rfl : .str "soon".toList = timestamp := by
    simpa [List.lookup_cons] using htimestamp
  refine ⟨_, rfl, ?_⟩
  intro clock
  have hinvalid : (objectRuntime invalidTimestamp invalidTimestampData
      [("timestamp".toList, .str "soon".toList)]).parseDatetime "soon".toList = none := by
    decide +kernel
  rw [hinvalid]
  intro hnaive
  cases hnaive

end GcpMonitor.Logs
