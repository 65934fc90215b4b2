import GcpMonitor.Logs.LogContent

namespace GcpMonitor.Logs

open Python

def contentTooLong (env : LogRuntime) (settings : LogSettings) (parsedRecord : ParsedRecord) :
    Bool :=
  (parsedRecord.get "content".toList).any (fun content =>
    settings.contentLengthLimit < (serialized env.pyRepr content).length)

def untrimmedKeys : List Text := ["content".toList, "severity".toList, "timestamp".toList]

structure PayloadLimited (env : LogRuntime) (settings : LogSettings)
    (parsedRecord payload : ParsedRecord) : Prop where
  keys : payload.keys = parsedRecord.keys
  content : ∀ value, parsedRecord.get "content".toList = some value →
    ∃ text, payload.get "content".toList = some (.str text) ∧ text ≠ [] ∧
      text.length ≤ settings.contentLengthLimit ∧
      Trimmed settings.contentLengthLimit (serialized env.pyRepr value) text
  attributes : ∀ k ∉ untrimmedKeys, ∀ value, parsedRecord.get k = some value →
    (value.truthy = false ∧ payload.get k = some value) ∨
      (value.truthy = true ∧ ∃ text, payload.get k = some (.str text) ∧
        LongestWithin settings.attributeValueLengthLimit (value.toStr env.pyRepr) text)
  untrimmed : ∀ k ∈ untrimmedKeys, k ≠ "content".toList → payload.get k = parsedRecord.get k

section

variable {env : LogRuntime} {settings : LogSettings} {engine : MetadataEngine} {record : Json}
  {parsedRecord : ParsedRecord}

theorem apply_content_truthy (env : RuleRuntime) (engine : MetadataEngine) (record : Json) :
    ∀ value, (engine.apply env record .empty).get "content".toList = some value →
      value.truthy = true := by
  intro value hvalue
  obtain ⟨rule, -, attr, -, -, -, htruthy⟩ := MetadataEngine.foundBy_of_apply_get env
    (by simp [commonKeys, resourceKeys]) (by simp) hvalue
  exact htruthy

theorem limitLengths_keys (parsedRecord : ParsedRecord) (sfm : LogSelfMonitoring) :
    (limitLengths env settings parsedRecord sfm).1.keys = parsedRecord.keys := by
  rw [limitLengths, ← OrderedDict.keys_mapValues parsedRecord (trimAttribute env settings)]
  cases hcontent : (parsedRecord.mapValues (trimAttribute env settings)).get
      "content".toList with
  | none => rfl
  | some content =>
    dsimp only
    cases content.truthy with
    | false => rfl
    | true =>
      apply OrderedDict.keys_set_of_mem
      rw [← OrderedDict.get_isSome_iff, hcontent]
      rfl

theorem trimAttribute_exempt {k : Text} (hk : k ∈ untrimmedKeys) (value : Json) :
    trimAttribute env settings k value = value := by
  have hexempt : untrimmedKeys.contains k = true := List.contains_iff_mem.mpr hk
  change (if !untrimmedKeys.contains k && value.truthy then _ else _) = _
  rw [hexempt]
  rfl

theorem trimAttribute_other {k : Text} (hk : k ∉ untrimmedKeys) (value : Json) :
    trimAttribute env settings k value =
      if value.truthy then
        .str ((value.toStr env.pyRepr).take settings.attributeValueLengthLimit)
      else value := by
  have hexempt : untrimmedKeys.contains k = false := by
    rw [← Bool.not_eq_true, List.contains_iff_mem]
    exact hk
  change (if !untrimmedKeys.contains k && value.truthy then _ else _) = _
  rw [hexempt]
  rfl

theorem limitLengths_tooLong (sfm : LogSelfMonitoring)
    (htruthy : ∀ value, parsedRecord.get "content".toList = some value → value.truthy = true) :
    (limitLengths env settings parsedRecord sfm).2 =
      if contentTooLong env settings parsedRecord then sfm.tooLongContent else sfm := by
  have hget := OrderedDict.get_mapValues parsedRecord (trimAttribute env settings)
    "content".toList
  rw [limitLengths, contentTooLong]
  cases hcontent : parsedRecord.get "content".toList with
  | none =>
    rw [hcontent] at hget
    simp only [hget, Option.map_none]
    rfl
  | some content =>
    rw [hcontent, Option.map_some, trimAttribute_exempt List.mem_cons_self] at hget
    simp only [hget, htruthy content hcontent, if_true, Option.any_some]
    rw [trimContent_eq]
    by_cases hlong : settings.contentLengthLimit < (serialized env.pyRepr content).length
    · simp [hlong]
    · simp [hlong]

theorem Trimmed.length_le {limit : ℕ} {original text : Text} (h : Trimmed limit original text) :
    text.length ≤ limit := by
  rcases h with ⟨hfits, rfl⟩ | ⟨-, room, kept, hroom, hkept, rfl⟩
  · exact hfits
  · have := hkept.fits
    rw [List.length_append]
    omega

theorem payloadLimited_limitLengths
    (hroom : contentMarkTrimmed.length ≤ settings.contentLengthLimit)
    (htruthy : ∀ value, parsedRecord.get "content".toList = some value → value.truthy = true)
    (sfm : LogSelfMonitoring) :
    PayloadLimited env settings parsedRecord (limitLengths env settings parsedRecord sfm).1 where
  keys := limitLengths_keys parsedRecord sfm
  content := by
    intro value hvalue
    have htrimmed := trimContent_trimmed env hroom value
    have hne := (trimContent_upToTrimming env settings value).ne_nil
      (serialized_ne_nil (htruthy value hvalue))
    refine ⟨_, ?_, hne, htrimmed.length_le, htrimmed⟩
    rw [limitLengths_content, hvalue, Option.map_some, if_pos (htruthy value hvalue)]
  attributes := by
    intro k hk value hvalue
    have hcontent : k ≠ "content".toList := by
      rintro rfl
      exact hk List.mem_cons_self
    rw [limitLengths_get hcontent, hvalue, Option.map_some, trimAttribute_other hk]
    cases hfalse : value.truthy with
    | false => exact .inl ⟨rfl, rfl⟩
    | true => exact .inr ⟨rfl, _, rfl, longestWithin_take _ _⟩
  untrimmed := by
    intro k hk hcontent
    rw [limitLengths_get hcontent]
    cases parsedRecord.get k with
    | none => rfl
    | some value => exact congrArg some (trimAttribute_exempt hk value)

theorem createParsedRecord_tooLong {publishTime : Json} {sfm sfm' : LogSelfMonitoring}
    {messageData : Text}
    (h : createParsedRecord env settings engine publishTime sfm messageData =
      .ok (parsedRecord, sfm')) :
    sfm'.recordsWithTooLongContent = sfm.recordsWithTooLongContent := by
  obtain ⟨record, -, ⟨-, rfl, -⟩ | ⟨-, rfl, -⟩⟩ := createParsedRecord_ok h
  · rfl
  · rfl

end

theorem payload_limited (env : LogRuntime) (settings : LogSettings) (engine : MetadataEngine)
    {publishTime : Json} {now : ℚ} {sfm sfm' : LogSelfMonitoring} {messageData : Text}
    {payload : ParsedRecord} (hroom : contentMarkTrimmed.length ≤ settings.contentLengthLimit)
    (h : createDtLogPayload env settings engine publishTime now sfm messageData =
      (.ok (some payload), sfm')) :
    ∃ parsedRecord before,
      createParsedRecord env settings engine publishTime sfm messageData =
        .ok (parsedRecord, before) ∧
      PayloadLimited env settings parsedRecord payload ∧
      sfm'.recordsWithTooLongContent = sfm.recordsWithTooLongContent +
        if contentTooLong env settings parsedRecord then 1 else 0 := by
  obtain ⟨parsedRecord, before, hparsed, hpayload⟩ := createDtLogPayload_some h
  obtain ⟨record, hrecord, -⟩ := createParsedRecord_ok hparsed
  have htruthy : ∀ value, parsedRecord.get "content".toList = some value →
      value.truthy = true := by
    intro value hvalue
    rw [createParsedRecord_get hparsed hrecord (by simp) (by simp)] at hvalue
    exact apply_content_truthy _ engine record value hvalue
  obtain ⟨rfl, rfl⟩ := Prod.ext_iff.mp hpayload
  refine ⟨parsedRecord, before, hparsed, payloadLimited_limitLengths hroom htruthy before, ?_⟩
  rw [limitLengths_tooLong before htruthy, ← createParsedRecord_tooLong hparsed]
  cases contentTooLong env settings parsedRecord with
  | false => rfl
  | true => rfl

def longMessage : Text := "Software intelligence".toList

def longRuntime : LogRuntime :=
  runtimeFor longMessage (.error (.valueError none)) [] ['n', 'o', 'w'] 100

def shortSettings : LogSettings := ⟨20, 4, 86400, [], []⟩

theorem payload_limited_long :
    ∃ payload sfm', createDtLogPayload longRuntime shortSettings defaultEngine
        (.str ['n', 'o', 'w']) 160 {} longMessage = (.ok (some payload), sfm') ∧
      ∃ parsedRecord before,
        createParsedRecord longRuntime shortSettings defaultEngine (.str ['n', 'o', 'w']) {}
          longMessage = .ok (parsedRecord, before) ∧
        PayloadLimited longRuntime shortSettings parsedRecord payload ∧
        sfm'.recordsWithTooLongContent =
          0 + if contentTooLong longRuntime shortSettings parsedRecord then 1 else 0 := by
  have hsome : (returnedPayload (createDtLogPayload longRuntime shortSettings defaultEngine
      (.str ['n', 'o', 'w']) 160 {} longMessage)).isSome = true := by
    decide +kernel
  obtain ⟨payload, hpayload⟩ := Option.isSome_iff_exists.mp hsome
  have hresult := eq_of_returnedPayload hpayload
  exact ⟨payload, _, hresult, payload_limited longRuntime shortSettings defaultEngine
    (by decide +kernel) hresult⟩

end GcpMonitor.Logs
