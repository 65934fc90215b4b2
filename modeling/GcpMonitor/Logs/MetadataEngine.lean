import GcpMonitor.Logs.CommonRules
import GcpMonitor.Python.JsonText

namespace GcpMonitor.Logs

open Python

/-- What the rule engine takes from elsewhere: `jmespath.search` with the custom functions, and how
Python writes and folds texts. -/
structure RuleRuntime where
  search : Text → Json → Except PyError Json
  casefold : Text → Text
  pyRepr : PyRepr

structure Attribute where
  key : Text
  pattern : Text
  deriving DecidableEq

inductive ConditionComparator where
  | equals
  | startsWith
  | contains
  deriving DecidableEq

def ConditionComparator.compare (comparator : ConditionComparator) (x y : Text) : Bool :=
  match comparator with
  | .equals => x = y
  | .startsWith => y.isPrefixOf x
  | .contains => x.tails.any (fun t => y.isPrefixOf t)

inductive SourceValueExtractor where
  | resourceType
  | logName
  deriving DecidableEq

def SourceValueExtractor.extract (record : Json) (parsedRecord : ParsedRecord) :
    SourceValueExtractor → Except PyError Json
  | .resourceType => .ok ((parsedRecord.get "gcp.resource.type".toList).getD .null)
  | .logName => record.get "logName" .null

structure SourceMatcher where
  extractor : SourceValueExtractor
  evaluator : ConditionComparator
  operand : Text
  deriving DecidableEq

structure ConfigRule where
  entityTypeName : Text
  sourceMatchers : List SourceMatcher
  attributes : List Attribute
  deriving DecidableEq

/-- The engine with its rules loaded. The common rule is loaded but never applied. -/
structure MetadataEngine where
  rules : List ConfigRule
  auditLogsRules : List ConfigRule
  defaultRule : Option ConfigRule
  dtSecurityContext : Json

section

variable (env : RuleRuntime)

def SourceMatcher.matches (matcher : SourceMatcher) (record : Json)
    (parsedRecord : ParsedRecord) : Except PyError Bool := do
  let value ← matcher.extractor.extract record parsedRecord
  pure (matcher.evaluator.compare (env.casefold (value.toStr env.pyRepr))
    (env.casefold matcher.operand))

def matchAll (record : Json) (parsedRecord : ParsedRecord) :
    List SourceMatcher → Except PyError Bool
  | [] => .ok true
  | matcher :: matchers => do
    if ← matcher.matches env record parsedRecord then matchAll record parsedRecord matchers
    else pure false

def checkIfRuleApplies (rule : ConfigRule) (record : Json) (parsedRecord : ParsedRecord) :
    Except PyError Bool :=
  matchAll env record parsedRecord rule.sourceMatchers

def applyAttribute (record : Json) (parsedRecord : ParsedRecord) (attr : Attribute) :
    ParsedRecord :=
  match env.search attr.pattern record with
  | .ok value => if value.truthy then parsedRecord.set attr.key value else parsedRecord
  | .error _ => parsedRecord

def applyRule (record : Json) (parsedRecord : ParsedRecord) (rule : ConfigRule) : ParsedRecord :=
  rule.attributes.foldl (applyAttribute env record) parsedRecord

def applyRules (record : Json) :
    List ConfigRule → ParsedRecord → ParsedRecord × Except PyError Bool
  | [], parsedRecord => (parsedRecord, .ok false)
  | rule :: rules, parsedRecord =>
    match checkIfRuleApplies env rule record parsedRecord with
    | .error e => (parsedRecord, .error e)
    | .ok false => applyRules record rules parsedRecord
    | .ok true =>
      match applyRules record rules (applyRule env record parsedRecord rule) with
      | (parsedRecord, .ok _) => (parsedRecord, .ok true)
      | (parsedRecord, .error e) => (parsedRecord, .error e)

def MetadataEngine.apply (engine : MetadataEngine) (record : Json) (parsedRecord : ParsedRecord) :
    ParsedRecord :=
  match applyCommonRules record parsedRecord with
  | (parsedRecord, some _) => parsedRecord
  | (parsedRecord, none) =>
    let parsedRecord := parsedRecord.set "dt.security_context".toList engine.dtSecurityContext
    match applyRules env record engine.rules parsedRecord with
    | (parsedRecord, .error _) => parsedRecord
    | (parsedRecord, .ok anyRuleApplied) =>
      match applyRules env record engine.auditLogsRules parsedRecord with
      | (parsedRecord, .error _) => parsedRecord
      | (parsedRecord, .ok anyAuditRuleApplied) =>
        match engine.defaultRule with
        | some defaultRule =>
          if anyRuleApplied || anyAuditRuleApplied then parsedRecord
          else applyRule env record parsedRecord defaultRule
        | none => parsedRecord

def ruleApplies (rule : ConfigRule) (record : Json) (parsedRecord : ParsedRecord) : Bool :=
  match checkIfRuleApplies env rule record parsedRecord with
  | .ok applies => applies
  | .error _ => false

def appliedRules (record : Json) : List ConfigRule → ParsedRecord → List ConfigRule
  | [], _ => []
  | rule :: rules, parsedRecord =>
    if ruleApplies env rule record parsedRecord then
      rule :: appliedRules record rules (applyRule env record parsedRecord rule)
    else appliedRules record rules parsedRecord

namespace MetadataEngine

def commonRecord (engine : MetadataEngine) (record : Json) (parsedRecord : ParsedRecord) :
    ParsedRecord :=
  (applyCommonRules record parsedRecord).1.set "dt.security_context".toList engine.dtSecurityContext

def appliedRules (engine : MetadataEngine) (record : Json) (parsedRecord : ParsedRecord) :
    List ConfigRule :=
  let parsedRecord := engine.commonRecord record parsedRecord
  let rules := Logs.appliedRules env record engine.rules parsedRecord
  let auditLogsRules := Logs.appliedRules env record engine.auditLogsRules
    (rules.foldl (applyRule env record) parsedRecord)
  if rules.isEmpty && auditLogsRules.isEmpty then engine.defaultRule.toList
  else rules ++ auditLogsRules

def loadedRules (engine : MetadataEngine) : List ConfigRule :=
  engine.rules ++ engine.auditLogsRules ++ engine.defaultRule.toList

end MetadataEngine

section

variable {engine : MetadataEngine} {record : Json} {parsedRecord : ParsedRecord}
  {rules : List ConfigRule}

theorem applyAttribute_get {attr : Attribute} {k : Text} (hk : attr.key ≠ k)
    (parsedRecord : ParsedRecord) :
    (applyAttribute env record parsedRecord attr).get k = parsedRecord.get k := by
  rw [applyAttribute]
  cases env.search attr.pattern record with
  | error e => rfl
  | ok value =>
    dsimp only
    split_ifs
    · exact OrderedDict.get_set_of_ne _ _ (Ne.symm hk)
    · rfl

theorem applyAttribute_get_cases {attr : Attribute} {k : Text} {value : Json}
    (h : (applyAttribute env record parsedRecord attr).get k = some value) :
    parsedRecord.get k = some value ∨
      (attr.key = k ∧ env.search attr.pattern record = .ok value ∧ value.truthy = true) := by
  rw [applyAttribute] at h
  cases hfound : env.search attr.pattern record with
  | error e =>
    rw [hfound] at h
    exact .inl h
  | ok found =>
    rw [hfound] at h
    dsimp only at h
    split_ifs at h with htruthy
    · by_cases hkey : attr.key = k
      · rw [hkey, OrderedDict.get_set_self] at h
        cases h
        exact .inr ⟨hkey, rfl, htruthy⟩
      · rw [OrderedDict.get_set_of_ne _ _ (Ne.symm hkey)] at h
        exact .inl h
    · exact .inl h

theorem applyRule_get {rule : ConfigRule} {k : Text}
    (hk : ∀ attr ∈ rule.attributes, attr.key ≠ k) (parsedRecord : ParsedRecord) :
    (applyRule env record parsedRecord rule).get k = parsedRecord.get k := by
  refine List.foldlRecOn (motive := fun after : ParsedRecord => after.get k = _)
    rule.attributes _ rfl ?_
  intro before hbefore attr hattr
  rw [applyAttribute_get env (hk attr hattr)]
  exact hbefore

def FoundBy (record : Json) (k : Text) (value : Json) (rule : ConfigRule) : Prop :=
  ∃ attr ∈ rule.attributes, attr.key = k ∧ env.search attr.pattern record = .ok value ∧
    value.truthy = true

theorem applyRule_get_cases {rule : ConfigRule} {k : Text} {value : Json}
    (h : (applyRule env record parsedRecord rule).get k = some value) :
    parsedRecord.get k = some value ∨ FoundBy env record k value rule := by
  revert value
  refine List.foldlRecOn (motive := fun after : ParsedRecord => ∀ {value},
    after.get k = some value → parsedRecord.get k = some value ∨ FoundBy env record k value rule)
    rule.attributes _ Or.inl ?_
  intro before hbefore attr hattr value hvalue
  rcases applyAttribute_get_cases env hvalue with hvalue | ⟨hkey, hfound, htruthy⟩
  · exact hbefore hvalue
  · exact .inr ⟨attr, hattr, hkey, hfound, htruthy⟩

theorem matchAll_of_object (entries : List (Text × Json)) (parsedRecord : ParsedRecord)
    (matchers : List SourceMatcher) :
    ∃ applies, matchAll env (.map entries) parsedRecord matchers = .ok applies := by
  induction matchers with
  | nil => exact ⟨true, rfl⟩
  | cons matcher matchers ih =>
    obtain ⟨matched, hmatched⟩ : ∃ matched,
        matcher.matches env (.map entries) parsedRecord = .ok matched := by
      obtain ⟨extractor, evaluator, operand⟩ := matcher
      cases extractor <;> exact ⟨_, rfl⟩
    rw [matchAll, hmatched]
    cases matched with
    | true => exact ih
    | false => exact ⟨false, rfl⟩

theorem applyRules_of_object (entries : List (Text × Json)) :
    applyRules env (.map entries) rules parsedRecord =
      ((appliedRules env (.map entries) rules parsedRecord).foldl
          (applyRule env (.map entries)) parsedRecord,
        .ok !(appliedRules env (.map entries) rules parsedRecord).isEmpty) := by
  induction rules generalizing parsedRecord with
  | nil => rfl
  | cons rule rules ih =>
    obtain ⟨applies, happlies⟩ := matchAll_of_object env entries parsedRecord rule.sourceMatchers
    have hrule : ruleApplies env rule (.map entries) parsedRecord = applies := by
      rw [ruleApplies, checkIfRuleApplies, happlies]
    rw [applyRules, appliedRules, checkIfRuleApplies, happlies, hrule]
    cases applies with
    | false => exact ih
    | true =>
      dsimp only
      rw [ih]
      rfl

theorem appliedRules_subset {rule : ConfigRule}
    (h : rule ∈ appliedRules env record rules parsedRecord) : rule ∈ rules := by
  induction rules generalizing parsedRecord with
  | nil => exact h
  | cons first rules ih =>
    rw [appliedRules] at h
    split_ifs at h
    · rcases List.mem_cons.mp h with rfl | h
      · exact List.mem_cons_self
      · exact List.mem_cons_of_mem _ (ih h)
    · exact List.mem_cons_of_mem _ (ih h)

namespace MetadataEngine

theorem apply_of_unreadable (h : commonAttributesReadable record = false) :
    engine.apply env record parsedRecord = (applyCommonRules record parsedRecord).1 := by
  rw [apply]
  cases hcommon : applyCommonRules record parsedRecord with
  | mk after error =>
    cases error with
    | some e => rfl
    | none =>
      have hreadable := (applyCommonRules_succeeds_iff _ _).mp (congrArg Prod.snd hcommon)
      rw [h] at hreadable
      contradiction

theorem apply_of_readable (h : commonAttributesReadable record = true) :
    engine.apply env record parsedRecord = (engine.appliedRules env record parsedRecord).foldl
      (applyRule env record) (engine.commonRecord record parsedRecord) := by
  obtain ⟨entries, rfl⟩ := object_of_readable h
  have hsucceeds := (applyCommonRules_succeeds_iff _ parsedRecord).mpr h
  rw [apply, commonRecord, appliedRules]
  cases hcommon : applyCommonRules (.map entries) parsedRecord with
  | mk after error =>
    rw [hcommon] at hsucceeds
    cases hsucceeds
    simp only [applyRules_of_object, commonRecord, hcommon]
    generalize hrules : Logs.appliedRules env (.map entries) engine.rules _ = rules
    generalize haudit : Logs.appliedRules env (.map entries) engine.auditLogsRules _ = auditRules
    cases engine.defaultRule <;> cases rules <;> cases auditRules <;> simp

theorem appliedRules_loaded {rule : ConfigRule}
    (h : rule ∈ engine.appliedRules env record parsedRecord) : rule ∈ engine.loadedRules := by
  simp only [appliedRules] at h
  split_ifs at h
  · exact List.mem_append_right _ h
  · apply List.mem_append_left
    rcases List.mem_append.mp h with h | h
    · exact List.mem_append_left _ (appliedRules_subset env h)
    · exact List.mem_append_right _ (appliedRules_subset env h)

theorem apply_get {k : Text} (hk : k ≠ "dt.security_context".toList)
    (hrules : ∀ rule ∈ engine.loadedRules, ∀ attr ∈ rule.attributes, attr.key ≠ k) :
    (engine.apply env record parsedRecord).get k =
      (applyCommonRules record parsedRecord).1.get k := by
  cases hreadable : commonAttributesReadable record with
  | false => rw [apply_of_unreadable env hreadable]
  | true =>
    rw [apply_of_readable env hreadable]
    have hcommon : (engine.commonRecord record parsedRecord).get k =
        (applyCommonRules record parsedRecord).1.get k := OrderedDict.get_set_of_ne _ _ hk
    refine List.foldlRecOn (motive := fun after : ParsedRecord => after.get k = _) _ _ hcommon ?_
    intro before hbefore rule hrule
    rw [applyRule_get env (hrules rule (appliedRules_loaded env hrule))]
    exact hbefore

theorem foundBy_of_apply_get {k : Text} {value : Json} (hcommon : k ∉ commonKeys)
    (hk : k ≠ "dt.security_context".toList)
    (h : (engine.apply env record .empty).get k = some value) :
    ∃ rule ∈ engine.loadedRules, FoundBy env record k value rule := by
  cases hreadable : commonAttributesReadable record with
  | false =>
    rw [apply_of_unreadable env hreadable, applyCommonRules_get hcommon] at h
    contradiction
  | true =>
    rw [apply_of_readable env hreadable] at h
    revert value
    refine List.foldlRecOn (motive := fun after : ParsedRecord => ∀ {value},
      after.get k = some value → ∃ rule ∈ engine.loadedRules, FoundBy env record k value rule)
      _ _ ?_ ?_
    · intro value hvalue
      rw [commonRecord, OrderedDict.get_set_of_ne _ _ hk, applyCommonRules_get hcommon] at hvalue
      contradiction
    · intro before hbefore rule hrule value hvalue
      rcases applyRule_get_cases env hvalue with hvalue | hfound
      · exact hbefore hvalue
      · exact ⟨rule, appliedRules_loaded env hrule, hfound⟩

end MetadataEngine

end

end

def jmespathFalse : Json → Bool
  | .null => true
  | .bool b => !b
  | .str s => s.isEmpty
  | .list items => items.isEmpty
  | .map entries => entries.isEmpty
  | _ => false

def ownContent : Json → Option Json
  | .map entries => entries.lookup "content".toList
  | _ => none

def contentOrWhole (record : Json) : Json :=
  match ownContent record with
  | some content => if jmespathFalse content then record else content
  | none => record

def searchContent (pattern : Text) (record : Json) : Except PyError Json :=
  if pattern = "@".toList then .ok record
  else if pattern = "content || @".toList then .ok (contentOrWhole record)
  else .error (.exception "ParseError")

theorem searchContent_whole (record : Json) : searchContent "@".toList record = .ok record := by
  rw [searchContent, if_pos rfl]

theorem searchContent_contentOrWhole (record : Json) :
    searchContent "content || @".toList record = .ok (contentOrWhole record) := by
  rw [searchContent, if_neg (by simp), if_pos rfl]

def wholeAttribute : Attribute := ⟨"content".toList, "@".toList⟩

def contentOrWholeAttribute : Attribute := ⟨"content".toList, "content || @".toList⟩

def defaultRule : ConfigRule := ⟨"default".toList, [], [contentOrWholeAttribute]⟩

def defaultEngine : MetadataEngine := ⟨[], [], some defaultRule, .null⟩

end GcpMonitor.Logs
