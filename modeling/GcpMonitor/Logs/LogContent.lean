import GcpMonitor.Logs.ProcessMessage

namespace GcpMonitor.Logs

open Python

def numericZero : Json → Bool
  | .int n => n = 0
  | .float x => x = .finite 0
  | _ => false

/-- What `jmespath` documents for `@` and for `content || @`. -/
structure ContentSearch (env : RuleRuntime) : Prop where
  whole : ∀ record, env.search "@".toList record = .ok record
  contentOrWhole : ∀ record, env.search "content || @".toList record = .ok (contentOrWhole record)

structure ContentRule (rule : ConfigRule) : Prop where
  hasContent : ∃ attr ∈ rule.attributes, attr.key = "content".toList
  patterns : ∀ attr ∈ rule.attributes, attr.key = "content".toList →
    attr = wholeAttribute ∨ attr = contentOrWholeAttribute

/-- The default rule is loaded, and every rule has a content attribute like those of the rules
under `config_logs`. -/
structure ContentRules (engine : MetadataEngine) : Prop where
  default : engine.defaultRule ≠ none
  rules : ∀ rule ∈ engine.loadedRules, ContentRule rule

def serialized (R : PyRepr) : Json → Text
  | .str s => s
  | value => value.dumps R

structure LongestWithin (limit : ℕ) (text part : Text) : Prop where
  isPrefix : part <+: text
  fits : part.length ≤ limit
  longest : ∀ other, other <+: text → other.length ≤ limit → other <+: part

theorem longestWithin_take (limit : ℕ) (text : Text) :
    LongestWithin limit text (text.take limit) where
  isPrefix := List.take_prefix _ _
  fits := List.length_take_le _ _
  longest := by
    intro other hother hlength
    apply List.prefix_of_prefix_length_le hother (List.take_prefix _ _)
    rw [List.length_take]
    exact Nat.le_min.mpr ⟨hlength, hother.length_le⟩

/-- The text itself where it fits, else the longest part of it that leaves room for the mark. -/
def Trimmed (limit : ℕ) (original text : Text) : Prop :=
  (original.length ≤ limit ∧ text = original) ∨
    (limit < original.length ∧ ∃ room kept, room + contentMarkTrimmed.length = limit ∧
      LongestWithin room original kept ∧ text = kept ++ contentMarkTrimmed)

/-- Where the limit is shorter than the mark, the slice counts from the end: as many of the last
characters go as the mark is longer than the limit. -/
def UpToTrimming (limit : ℕ) (text original : Text) : Prop :=
  Trimmed limit original text ∨
    (limit < original.length ∧ limit < contentMarkTrimmed.length ∧
      ∃ kept dropped, original = kept ++ dropped ∧
        dropped.length = min original.length (contentMarkTrimmed.length - limit) ∧
        text = kept ++ contentMarkTrimmed)

def ContentKept (env : LogRuntime) (settings : LogSettings) (record : Json)
    (payload : ParsedRecord) : Prop :=
  ∃ text value, payload.get "content".toList = some (.str text) ∧ text ≠ [] ∧
    (value = record ∨ ownContent record = some value) ∧
    UpToTrimming settings.contentLengthLimit text (serialized env.pyRepr value)

/-- The common rules can read the record, and some rule finds a content that Python takes for
true. -/
def ContentReached (env : RuleRuntime) (engine : MetadataEngine) (record : Json) : Prop :=
  commonAttributesReadable record = true ∧
    ((ownContent record).any numericZero = false ∨
      ∃ rule ∈ engine.appliedRules env record .empty, wholeAttribute ∈ rule.attributes)

section

variable {env : RuleRuntime} {record : Json} {parsedRecord : ParsedRecord}

theorem truthy_of_not_jmespathFalse {value : Json} (h : jmespathFalse value = false) :
    value.truthy = !numericZero value := by
  cases value with
  | null => cases h
  | bool b => simpa [jmespathFalse, Json.truthy, numericZero] using h
  | int n => simp [Json.truthy, numericZero]
  | float x => simp [Json.truthy, numericZero]
  | str s => simpa [jmespathFalse, Json.truthy, numericZero] using h
  | list items => simpa [jmespathFalse, Json.truthy, numericZero] using h
  | map entries => simpa [jmespathFalse, Json.truthy, numericZero] using h

theorem numericZero_of_jmespathFalse {value : Json} (h : jmespathFalse value = true) :
    numericZero value = false := by
  cases value <;> first | rfl | cases h

def finds (env : RuleRuntime) (record : Json) (attr : Attribute) : Bool :=
  match env.search attr.pattern record with
  | .ok value => value.truthy
  | .error _ => false

theorem foldl_iff_exists {α β : Type} {f : β → α → β} {P : β → Prop} {Q : α → Prop}
    (h : ∀ b a, P (f b a) ↔ P b ∨ Q a) (xs : List α) (b : β) :
    P (xs.foldl f b) ↔ P b ∨ ∃ x ∈ xs, Q x := by
  induction xs generalizing b with
  | nil => simp
  | cons x xs ih => simp [ih, h, or_assoc]

theorem applyAttribute_isSome (k : Text) (attr : Attribute) :
    ((applyAttribute env record parsedRecord attr).get k).isSome = true ↔
      (parsedRecord.get k).isSome = true ∨ (attr.key = k ∧ finds env record attr = true) := by
  rw [applyAttribute, finds]
  cases env.search attr.pattern record with
  | error e => simp
  | ok value =>
    dsimp only
    split_ifs with htruthy
    · by_cases hkey : attr.key = k
      · simp [hkey, htruthy, OrderedDict.get_set_self]
      · simp [hkey, OrderedDict.get_set_of_ne _ _ (Ne.symm hkey)]
    · simp [htruthy]

theorem applyRule_isSome (k : Text) (rule : ConfigRule) (parsedRecord : ParsedRecord) :
    ((applyRule env record parsedRecord rule).get k).isSome = true ↔
      (parsedRecord.get k).isSome = true ∨
        ∃ attr ∈ rule.attributes, attr.key = k ∧ finds env record attr = true :=
  foldl_iff_exists (P := fun p : ParsedRecord => (p.get k).isSome = true)
    (fun _ attr => applyAttribute_isSome k attr) rule.attributes parsedRecord

def ContentOf (record : Json) (parsedRecord : ParsedRecord) : Prop :=
  ∀ value, parsedRecord.get "content".toList = some value →
    value.truthy = true ∧ (value = record ∨ ownContent record = some value)

theorem search_contentAttribute (hsearch : ContentSearch env) {attr : Attribute}
    (hattr : attr = wholeAttribute ∨ attr = contentOrWholeAttribute) (record : Json) :
    ∃ value, env.search attr.pattern record = .ok value ∧
      (value = record ∨ ownContent record = some value) := by
  rcases hattr with rfl | rfl
  · exact ⟨record, hsearch.whole record, .inl rfl⟩
  · refine ⟨_, hsearch.contentOrWhole record, ?_⟩
    rw [contentOrWhole]
    cases ownContent record with
    | none => exact .inl rfl
    | some content =>
      dsimp only
      split_ifs
      · exact .inl rfl
      · exact .inr rfl

theorem finds_whole (hsearch : ContentSearch env) (hrecord : record.truthy = true) :
    finds env record wholeAttribute = true := by
  rw [finds]
  change (match env.search "@".toList record with
    | .ok value => value.truthy
    | .error _ => false) = true
  rw [hsearch.whole]
  exact hrecord

theorem finds_contentOrWhole (hsearch : ContentSearch env) (hrecord : record.truthy = true) :
    finds env record contentOrWholeAttribute = !(ownContent record).any numericZero := by
  rw [finds]
  change (match env.search "content || @".toList record with
    | .ok value => value.truthy
    | .error _ => false) = _
  rw [hsearch.contentOrWhole, contentOrWhole]
  cases ownContent record with
  | none => simpa using hrecord
  | some content =>
    cases hfalse : jmespathFalse content with
    | true => simp [hfalse, hrecord, numericZero_of_jmespathFalse hfalse]
    | false => simp [hfalse, truthy_of_not_jmespathFalse hfalse]

theorem rule_finds_content_iff (hsearch : ContentSearch env) (hrecord : record.truthy = true)
    {rule : ConfigRule} (hrule : ContentRule rule) :
    (∃ attr ∈ rule.attributes, attr.key = "content".toList ∧ finds env record attr = true) ↔
      (ownContent record).any numericZero = false ∨ wholeAttribute ∈ rule.attributes := by
  constructor
  · rintro ⟨attr, hattr, hkey, hfinds⟩
    rcases hrule.patterns attr hattr hkey with rfl | rfl
    · exact .inr hattr
    · rw [finds_contentOrWhole hsearch hrecord] at hfinds
      exact .inl (by simpa using hfinds)
  · rintro (hzero | hwhole)
    · obtain ⟨attr, hattr, hkey⟩ := hrule.hasContent
      refine ⟨attr, hattr, hkey, ?_⟩
      rcases hrule.patterns attr hattr hkey with rfl | rfl
      · exact finds_whole hsearch hrecord
      · rw [finds_contentOrWhole hsearch hrecord, hzero]
        rfl
    · exact ⟨wholeAttribute, hwhole, rfl, finds_whole hsearch hrecord⟩

end

section

variable {env : RuleRuntime} {engine : MetadataEngine} {record : Json}

theorem commonRecord_content (engine : MetadataEngine) (record : Json) :
    (engine.commonRecord record .empty).get "content".toList = none := by
  rw [MetadataEngine.commonRecord, OrderedDict.get_set_of_ne _ _ (by simp),
    applyCommonRules_get (by simp [commonKeys, resourceKeys])]
  rfl

theorem apply_contentOf (hsearch : ContentSearch env) (hrules : ContentRules engine) :
    ContentOf record (engine.apply env record .empty) := by
  intro value hvalue
  obtain ⟨rule, hrule, attr, hattr, hkey, hfound, htruthy⟩ := MetadataEngine.foundBy_of_apply_get
    env (by simp [commonKeys, resourceKeys]) (by simp) hvalue
  obtain ⟨content, hcontent, hsource⟩ := search_contentAttribute hsearch
    ((hrules.rules rule hrule).patterns attr hattr hkey) record
  rw [hcontent] at hfound
  cases hfound
  exact ⟨htruthy, hsource⟩

theorem appliedRules_ne_nil (env : RuleRuntime) (record : Json) (hrules : ContentRules engine)
    (parsedRecord : ParsedRecord) :
    engine.appliedRules env record parsedRecord ≠ [] := by
  simp only [MetadataEngine.appliedRules]
  split_ifs with hnone
  · simpa using hrules.default
  · intro h
    obtain ⟨hfirst, hsecond⟩ := List.append_eq_nil_iff.mp h
    apply hnone
    rw [hsecond, hfirst]
    rfl

theorem truthy_of_readable (hreadable : commonAttributesReadable record = true)
    (hne : record ≠ .map []) : record.truthy = true := by
  obtain ⟨entries, rfl⟩ := object_of_readable hreadable
  cases entries with
  | nil => exact absurd rfl hne
  | cons entry entries => rfl

theorem apply_content_isSome (hsearch : ContentSearch env) (hrules : ContentRules engine)
    (hne : record ≠ .map []) :
    ((engine.apply env record .empty).get "content".toList).isSome = true ↔
      ContentReached env engine record := by
  rw [ContentReached]
  cases hreadable : commonAttributesReadable record with
  | false =>
    rw [MetadataEngine.apply_of_unreadable env hreadable,
      applyCommonRules_get (by simp [commonKeys, resourceKeys])]
    simp [OrderedDict.get_empty]
  | true =>
    have hfinds : ∀ rule ∈ engine.appliedRules env record .empty, _ := fun rule hrule =>
      rule_finds_content_iff hsearch (truthy_of_readable hreadable hne)
        (hrules.rules rule (MetadataEngine.appliedRules_loaded env hrule))
    -- where no other rule applies, the default rule does
    obtain ⟨first, hfirst⟩ := List.exists_mem_of_ne_nil _
      (appliedRules_ne_nil env record hrules .empty)
    rw [MetadataEngine.apply_of_readable env hreadable,
      foldl_iff_exists (P := fun p : ParsedRecord => (p.get "content".toList).isSome = true)
        (fun p rule => applyRule_isSome _ rule p), commonRecord_content]
    constructor
    · rintro (h | ⟨rule, hrule, h⟩)
      · contradiction
      · rcases (hfinds rule hrule).mp h with hzero | hwhole
        · exact ⟨rfl, .inl hzero⟩
        · exact ⟨rfl, .inr ⟨rule, hrule, hwhole⟩⟩
    · rintro ⟨-, hzero | ⟨rule, hrule, hwhole⟩⟩
      · exact .inr ⟨first, hfirst, (hfinds first hfirst).mpr (.inl hzero)⟩
      · exact .inr ⟨rule, hrule, (hfinds rule hrule).mpr (.inr hwhole)⟩

end

theorem trimContent_eq (env : LogRuntime) (settings : LogSettings) (content : Json) :
    trimContent env settings content =
      if settings.contentLengthLimit < (serialized env.pyRepr content).length then
        ((serialized env.pyRepr content).sliceTo
          (settings.contentLengthLimit - contentMarkTrimmed.length) ++ contentMarkTrimmed, true)
      else (serialized env.pyRepr content, false) := rfl

theorem trimContent_trimmed (env : LogRuntime) {settings : LogSettings}
    (hroom : contentMarkTrimmed.length ≤ settings.contentLengthLimit) (content : Json) :
    Trimmed settings.contentLengthLimit (serialized env.pyRepr content)
      (trimContent env settings content).1 := by
  rw [trimContent_eq]
  split_ifs with hlong
  · refine .inr ⟨hlong, settings.contentLengthLimit - contentMarkTrimmed.length, _, by omega,
      longestWithin_take _ _, ?_⟩
    rw [Text.sliceTo, if_pos (by omega), Int.toNat_sub]
  · exact .inl ⟨by omega, rfl⟩

theorem trimContent_upToTrimming (env : LogRuntime) (settings : LogSettings) (content : Json) :
    UpToTrimming settings.contentLengthLimit (trimContent env settings content).1
      (serialized env.pyRepr content) := by
  by_cases hroom : contentMarkTrimmed.length ≤ settings.contentLengthLimit
  · exact .inl (trimContent_trimmed env hroom content)
  · rw [trimContent_eq]
    split_ifs with hlong
    · refine .inr ⟨hlong, by omega, _, _, (List.take_append_drop _ _).symm, ?_, rfl⟩
      rw [if_neg (by omega), List.length_drop]
      omega
    · exact .inl (.inl ⟨by omega, rfl⟩)

theorem serialized_ne_nil {R : PyRepr} {content : Json} (h : content.truthy = true) :
    serialized R content ≠ [] := by
  cases content with
  | str s => simpa [Json.truthy, serialized] using h
  | _ => exact Json.dumps_ne_nil R _

theorem UpToTrimming.ne_nil {limit : ℕ} {text original : Text}
    (h : UpToTrimming limit text original) (horiginal : original ≠ []) : text ≠ [] := by
  have hmarked : ∀ kept, kept ++ contentMarkTrimmed ≠ [] := by
    intro kept hnil
    exact absurd (List.append_eq_nil_iff.mp hnil).2 (by decide +kernel)
  rcases h with (⟨-, rfl⟩ | ⟨-, _, kept, -, -, rfl⟩) | ⟨-, -, kept, _, -, -, rfl⟩
  · exact horiginal
  · exact hmarked kept
  · exact hmarked kept

theorem content_kept_iff (env : LogRuntime) (settings : LogSettings) {engine : MetadataEngine}
    (hsearch : ContentSearch env.toRuleRuntime) (hrules : ContentRules engine)
    {publishTime : Json} {now : ℚ} {sfm sfm' : LogSelfMonitoring} {messageData : Text}
    {record : Json} {payload : ParsedRecord} (hrecord : loadRecord env messageData = .ok record)
    (hne : record ≠ .map [])
    (h : createDtLogPayload env settings engine publishTime now sfm messageData =
      (.ok (some payload), sfm')) :
    ContentKept env settings record payload ↔
      ContentReached env.toRuleRuntime engine record := by
  obtain ⟨parsedRecord, before, hparsed, hpayload⟩ := createDtLogPayload_some h
  have hcontent : payload.get "content".toList = _ :=
    (congrArg (fun p => p.1.get "content".toList) hpayload).trans
      (limitLengths_content parsedRecord before)
  rw [createParsedRecord_get hparsed hrecord (by simp) (by simp)] at hcontent
  have hreached := apply_content_isSome hsearch hrules hne
  cases happly : (engine.apply env.toRuleRuntime record .empty).get "content".toList with
  | none =>
    rw [happly] at hcontent hreached
    constructor
    · rintro ⟨text, value, htext, -⟩
      rw [hcontent] at htext
      cases htext
    · intro h
      have hsome := hreached.mpr h
      cases hsome
  | some content =>
    obtain ⟨htruthy, hsource⟩ := apply_contentOf hsearch hrules content happly
    rw [happly, Option.map_some, if_pos htruthy] at hcontent
    rw [happly] at hreached
    have htrimmed := trimContent_upToTrimming env settings content
    have hkept : ContentKept env settings record payload :=
      ⟨_, content, hcontent, htrimmed.ne_nil (serialized_ne_nil htruthy), hsource, htrimmed⟩
    exact iff_of_true hkept (hreached.mp rfl)

theorem contentSearch_runtimeFor (messageData : Text) (record : Except PyError Json)
    (data publishTime : Text) (published : ℚ) :
    ContentSearch (runtimeFor messageData record data publishTime published).toRuleRuntime where
  whole := searchContent_whole
  contentOrWhole := searchContent_contentOrWhole

theorem contentRules_defaultEngine : ContentRules defaultEngine where
  default := by simp [defaultEngine]
  rules := by
    intro rule hrule
    obtain rfl : rule = defaultRule := List.mem_singleton.mp hrule
    exact ⟨⟨_, List.mem_cons_self, rfl⟩,
      fun attr hattr _ => .inr (List.mem_singleton.mp hattr)⟩

def returnedPayload (result : Except PyError (Option ParsedRecord) × LogSelfMonitoring) :
    Option ParsedRecord :=
  match result.1 with
  | .ok payload => payload
  | .error _ => none

theorem eq_of_returnedPayload {result : Except PyError (Option ParsedRecord) × LogSelfMonitoring}
    {payload : ParsedRecord} (h : returnedPayload result = some payload) :
    result = (.ok (some payload), result.2) := by
  obtain ⟨outcome, sfm⟩ := result
  cases outcome with
  | ok outcome =>
    cases h
    rfl
  | error e => cases h

def numberRuntime : LogRuntime := runtimeFor ['7'] (.ok (.int 7)) [] ['n', 'o', 'w'] 100

theorem number_loses_content :
    ¬ ∀ (env : LogRuntime) (settings : LogSettings) (engine : MetadataEngine) (publishTime : Json)
      (now : ℚ) (sfm sfm' : LogSelfMonitoring) (messageData : Text) (record : Json)
      (payload : ParsedRecord),
      ContentSearch env.toRuleRuntime → ContentRules engine → messageData ≠ [] →
      loadRecord env messageData = .ok record → record.truthy = true →
      createDtLogPayload env settings engine publishTime now sfm messageData =
        (.ok (some payload), sfm') →
      ContentKept env settings record payload := by
  intro hclaim
  have hlost : (returnedPayload (createDtLogPayload numberRuntime defaultSettings defaultEngine
      (.str ['n', 'o', 'w']) 160 {} ['7'])).any
        (fun payload => (payload.get "content".toList).isNone) = true := by
    decide +kernel
  obtain ⟨payload, hpayload, hnone⟩ := (Option.any_eq_true _ _).mp hlost
  have hkept := hclaim numberRuntime defaultSettings defaultEngine (.str ['n', 'o', 'w']) 160 {} _
    ['7'] (.int 7) payload (contentSearch_runtimeFor _ _ _ _ _) contentRules_defaultEngine (by simp)
    rfl rfl (eq_of_returnedPayload hpayload)
  obtain ⟨text, value, htext, -⟩ := hkept
  rw [htext] at hnone
  contradiction

def plainRuntime : LogRuntime :=
  runtimeFor ['o', 'k'] (.error (.valueError none)) [] ['n', 'o', 'w'] 100

theorem content_kept_iff_plain :
    ∃ payload sfm', createDtLogPayload plainRuntime defaultSettings defaultEngine
        (.str ['n', 'o', 'w']) 160 {} ['o', 'k'] = (.ok (some payload), sfm') ∧
      ContentKept plainRuntime defaultSettings (.map [("content".toList, .str ['o', 'k'])])
        payload := by
  have hsome : (returnedPayload (createDtLogPayload plainRuntime defaultSettings defaultEngine
      (.str ['n', 'o', 'w']) 160 {} ['o', 'k'])).isSome = true := by
    decide +kernel
  obtain ⟨payload, hpayload⟩ := Option.isSome_iff_exists.mp hsome
  have hresult := eq_of_returnedPayload hpayload
  refine ⟨payload, _, hresult, ?_⟩
  refine (content_kept_iff plainRuntime defaultSettings (contentSearch_runtimeFor _ _ _ _ _)
    contentRules_defaultEngine rfl (by simp) hresult).mpr ⟨?_, .inl ?_⟩
  · decide +kernel
  · decide +kernel

end GcpMonitor.Logs
