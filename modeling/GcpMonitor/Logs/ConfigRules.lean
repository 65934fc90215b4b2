import GcpMonitor.Library.ExceptList
import GcpMonitor.Logs.MetadataEngine
import Mathlib.Data.List.ReduceOption

namespace GcpMonitor.Logs

open Python

/-- `"resourceType".casefold()` and `"logName".casefold()` -/
def sourceValueExtractorMap : List (Text × SourceValueExtractor) :=
  [("resourcetype".toList, .resourceType), ("logname".toList, .logName)]

def conditionComparatorMap : List (Text × ConditionComparator) :=
  [("$eq".toList, .equals), ("$prefix".toList, .startsWith), ("$contains".toList, .contains)]

/-- The first of `re.findall(r"'(.*?)'", condition, re.DOTALL)`. -/
def firstOperand (condition : Text) : Option Text := do
  let (_, rest) ← condition.cutAt '\''
  let (operand, _) ← rest.cutAt '\''
  some operand

def specialRuleNames : List Text := ["default".toList, "common".toList]

section

variable (env : RuleRuntime)

def SourceMatcher.create (source condition : Json) : Except PyError (Option SourceMatcher) :=
  match condition, source with
  | .str condition, .str source => .ok do
    let evaluator ← conditionComparatorMap.find? (fun entry => entry.1.isPrefixOf condition)
    let operand ← firstOperand condition
    let extractor ← sourceValueExtractorMap.lookup (env.casefold source)
    if operand.isEmpty then none else some ⟨extractor, evaluator.2, operand⟩
  | _, _ => .error .attributeError

def createSource (sourceJson : Json) : Except PyError (Option SourceMatcher) := do
  let source ← sourceJson.get "source" .null
  let condition ← sourceJson.get "condition" .null
  if source.truthy && condition.truthy then SourceMatcher.create env source condition
  else pure none

/-- none where the loop of `_create_sources` comes to an invalid source -/
def validMatchers : List Json → Except PyError (Option (List SourceMatcher))
  | [] => .ok (some [])
  | sourceJson :: sourcesJson => do
    match ← createSource env sourceJson with
    | none => pure none
    | some matcher =>
      let matchers ← validMatchers sourcesJson
      pure (matchers.map (fun matchers => matcher :: matchers))

def createSources (sourcesJson : Json) : Except PyError (List SourceMatcher) := do
  let sources ← sourcesJson.iter
  let matchers ← validMatchers env sources
  pure (matchers.getD [])

/-- An attribute whose key or pattern is no text is left out. The search for such a pattern raises,
and no matcher reads such a key. -/
def createAttributes : List Json → Except PyError (List Attribute)
  | [] => .ok []
  | attributeJson :: attributesJson => do
    let key ← attributeJson.get "key" .null
    let pattern ← attributeJson.get "pattern" .null
    let attributes ← createAttributes attributesJson
    pure (match key, pattern with
      | .str key, .str pattern =>
        if key.isEmpty || pattern.isEmpty then attributes else ⟨key, pattern⟩ :: attributes
      | _, _ => attributes)

def createConfigRule (entityName : Text) (ruleJson : Json) :
    Except PyError (Option ConfigRule) := do
  let special := specialRuleNames.contains entityName
  let sourcesJson ← ruleJson.get "sources" (.list [])
  if !special && !sourcesJson.truthy then pure none
  else
    let sources ← createSources env sourcesJson
    if !special && sources.isEmpty then pure none
    else
      let attributesJson ← ruleJson.get "attributes" (.list [])
      let attributes ← createAttributes (← attributesJson.iter)
      pure (some ⟨entityName, sources, attributes⟩)

def configName (configJson : Json) : Except PyError Text := do
  match ← configJson.get "name" (.str []) with
  | .str name => pure name
  | _ => throw .attributeError

def createConfigRules (configJson : Json) : Except PyError (List ConfigRule) := do
  let name ← configName configJson
  let rulesJson ← configJson.get "rules" (.list [])
  let createdRules ← (← rulesJson.iter).mapM (createConfigRule env name)
  pure createdRules.reduceOption

def firstRule (rules : List ConfigRule) : Except PyError ConfigRule :=
  rules.head?.elim (.error .indexError) .ok

def loadConfig (engine : MetadataEngine) (configJson : Json) : Except PyError MetadataEngine := do
  let name ← configName configJson
  let rules ← createConfigRules env configJson
  if name = "default".toList then
    let rule ← firstRule rules
    pure { engine with defaultRule := some rule }
  else if name = "common".toList then
    let _ ← firstRule rules
    pure engine
  else if "audit_logs".toList.isPrefixOf name then pure { engine with auditLogsRules := rules }
  else pure { engine with rules := engine.rules ++ rules }

/-- The files in the order in which they are found, each as `json.load` reads it. A file for which
anything raises is logged and changes nothing. -/
def loadConfigs (dtSecurityContext : Json) (files : List (Except PyError Json)) : MetadataEngine :=
  files.foldl (fun engine file =>
    match file >>= loadConfig env engine with
    | .ok engine => engine
    | .error _ => engine) ⟨[], [], none, dtSecurityContext⟩

end

def SourceValueExtractor.name : SourceValueExtractor → Text
  | .resourceType => "resourcetype".toList
  | .logName => "logname".toList

def ConditionComparator.name : ConditionComparator → Text
  | .equals => "$eq".toList
  | .startsWith => "$prefix".toList
  | .contains => "$contains".toList

/-- A condition is its comparator's name and, further on, the operand between quotes. -/
def IsCondition (comparator : ConditionComparator) (operand condition : Text) : Prop :=
  operand ≠ [] ∧ '\'' ∉ operand ∧ ∃ between rest, '\'' ∉ between ∧
    condition = comparator.name ++ between ++ '\'' :: (operand ++ '\'' :: rest)

structure WrittenAs (env : RuleRuntime) (sourceJson : Json) (matcher : SourceMatcher) : Prop where
  source : ∃ source, source ≠ [] ∧ sourceJson.get "source" .null = .ok (.str source) ∧
    env.casefold source = matcher.extractor.name
  condition : ∃ condition, sourceJson.get "condition" .null = .ok (.str condition) ∧
    IsCondition matcher.evaluator matcher.operand condition

/-- The matchers of an ordinary rule are all its sources, and there is one. A special rule may have
lost them. -/
structure WrittenRule (env : RuleRuntime) (entityName : Text) (ruleJson : Json)
    (rule : ConfigRule) : Prop where
  entityTypeName : rule.entityTypeName = entityName
  sources : ∃ sourcesJson sources, ruleJson.get "sources" (.list []) = .ok sourcesJson ∧
    sourcesJson.iter = .ok sources ∧
    (List.Forall₂ (WrittenAs env) sources rule.sourceMatchers ∨
      (entityName ∈ specialRuleNames ∧ rule.sourceMatchers = []))
  ordinary : entityName ∉ specialRuleNames → rule.sourceMatchers ≠ []

def WrittenIn (env : RuleRuntime) (configJson : Json) (rule : ConfigRule) : Prop :=
  ∃ entityName rulesJson rules ruleJson, configName configJson = .ok entityName ∧
    configJson.get "rules" (.list []) = .ok rulesJson ∧ rulesJson.iter = .ok rules ∧
    ruleJson ∈ rules ∧ WrittenRule env entityName ruleJson rule

def BuiltRule (env : RuleRuntime) (configs : List Json) (rule : ConfigRule) : Prop :=
  ∃ configJson ∈ configs, ∃ rules, createConfigRules env configJson = .ok rules ∧ rule ∈ rules

section

variable {env : RuleRuntime}

theorem firstOperand_eq_some_iff {condition operand : Text} :
    firstOperand condition = some operand ↔ '\'' ∉ operand ∧ ∃ before rest, '\'' ∉ before ∧
      condition = before ++ '\'' :: (operand ++ '\'' :: rest) := by
  simp only [firstOperand, bind, Option.bind_eq_some_iff, Prod.exists, Text.cutAt_eq_some_iff,
    Option.some.injEq]
  constructor
  · rintro ⟨before, -, ⟨rfl, hbefore⟩, operand, rest, ⟨rfl, hoperand⟩, rfl⟩
    exact ⟨hoperand, before, rest, hbefore, rfl⟩
  · rintro ⟨hoperand, before, rest, hbefore, rfl⟩
    exact ⟨before, _, ⟨rfl, hbefore⟩, operand, rest, ⟨rfl, hoperand⟩, rfl⟩

theorem name_not_quoted (comparator : ConditionComparator) : '\'' ∉ comparator.name := by
  cases comparator <;> decide

theorem findComparator (comparator : ConditionComparator) (rest : Text) :
    conditionComparatorMap.find? (fun entry => entry.1.isPrefixOf (comparator.name ++ rest)) =
      some (comparator.name, comparator) := by
  cases comparator <;> rfl

theorem findComparator_some {condition : Text} {entry : Text × ConditionComparator}
    (h : conditionComparatorMap.find? (fun entry => entry.1.isPrefixOf condition) = some entry) :
    entry.2.name <+: condition := by
  have hmem := List.mem_of_find?_eq_some h
  have hfound : entry.1.isPrefixOf condition = true :=
    List.find?_some (p := fun entry : Text × ConditionComparator => entry.1.isPrefixOf condition) h
  have hname : entry.1 = entry.2.name := by
    simp only [conditionComparatorMap, List.mem_cons, List.not_mem_nil, or_false] at hmem
    rcases hmem with rfl | rfl | rfl <;> rfl
  rw [← hname]
  exact List.isPrefixOf_iff_prefix.mp hfound

theorem lookupExtractor_eq_some_iff {source : Text} {extractor : SourceValueExtractor} :
    sourceValueExtractorMap.lookup source = some extractor ↔ source = extractor.name := by
  constructor
  · intro h
    rw [sourceValueExtractorMap, List.lookup_cons, List.lookup_cons] at h
    split at h
    · next heq =>
      cases h
      exact eq_of_beq heq
    · split at h
      · next heq =>
        cases h
        exact eq_of_beq heq
      · cases h
  · rintro rfl
    cases extractor <;> rfl

theorem condition_of_parts {condition operand : Text} {comparator : ConditionComparator}
    (hname : comparator.name <+: condition) (hoperand : firstOperand condition = some operand)
    (hne : operand ≠ []) : IsCondition comparator operand condition := by
  obtain ⟨hquote, before, rest, hbefore, rfl⟩ := firstOperand_eq_some_iff.mp hoperand
  have hcut : comparator.name <+: before := by
    rcases List.prefix_or_prefix_of_prefix hname
      (show before ++ ['\''] <+: _ from ⟨_, by rw [List.append_assoc]; rfl⟩) with h | h
    · rcases List.prefix_concat_iff.mp h with heq | h
      · have hmem : '\'' ∈ comparator.name := by simp [heq]
        exact absurd hmem (name_not_quoted comparator)
      · exact h
    · exact absurd (h.subset (by simp)) (name_not_quoted comparator)
  obtain ⟨between, rfl⟩ := hcut
  refine ⟨hne, hquote, between, rest, ?_, rfl⟩
  exact fun h => hbefore (List.mem_append_right _ h)

theorem IsCondition.parts {condition operand : Text} {comparator : ConditionComparator}
    (h : IsCondition comparator operand condition) :
    conditionComparatorMap.find? (fun entry => entry.1.isPrefixOf condition) =
        some (comparator.name, comparator) ∧
      firstOperand condition = some operand := by
  obtain ⟨-, hquote, between, rest, hbetween, rfl⟩ := h
  constructor
  · rw [List.append_assoc]
    exact findComparator _ _
  · refine firstOperand_eq_some_iff.mpr ⟨hquote, _, rest, ?_, rfl⟩
    rw [List.mem_append, not_or]
    exact ⟨name_not_quoted comparator, hbetween⟩

theorem create_eq_some_iff {source condition : Json} {matcher : SourceMatcher} :
    SourceMatcher.create env source condition = .ok (some matcher) ↔
      ∃ sourceText conditionText, source = .str sourceText ∧ condition = .str conditionText ∧
        env.casefold sourceText = matcher.extractor.name ∧
        IsCondition matcher.evaluator matcher.operand conditionText := by
  constructor
  · intro h
    obtain ⟨conditionText, rfl⟩ : ∃ text, condition = .str text := by
      cases condition <;> first | exact ⟨_, rfl⟩ | cases h
    obtain ⟨sourceText, rfl⟩ : ∃ text, source = .str text := by
      cases source <;> first | exact ⟨_, rfl⟩ | cases h
    simp only [SourceMatcher.create, bind, Except.ok.injEq, Option.bind_eq_some_iff] at h
    obtain ⟨⟨name, evaluator⟩, hfind, operand, hoperand, extractor, hextractor, h⟩ := h
    split_ifs at h with hempty
    cases h
    exact ⟨_, _, rfl, rfl, lookupExtractor_eq_some_iff.mp hextractor,
      condition_of_parts (findComparator_some hfind) hoperand (by simpa using hempty)⟩
  · rintro ⟨sourceText, conditionText, rfl, rfl, hsource, hcondition⟩
    obtain ⟨hfind, hoperand⟩ := hcondition.parts
    have hextractor := lookupExtractor_eq_some_iff.mpr hsource
    have hempty : matcher.operand.isEmpty = false := by simpa using hcondition.1
    simp only [SourceMatcher.create, hfind, hoperand, hextractor, bind, Option.bind_some, hempty]
    rfl

theorem createSource_eq_some_iff {sourceJson : Json} {matcher : SourceMatcher} :
    createSource env sourceJson = .ok (some matcher) ↔ WrittenAs env sourceJson matcher := by
  simp only [createSource, ExceptList.bind_eq_ok_iff]
  constructor
  · rintro ⟨source, hsource, condition, hcondition, h⟩
    split_ifs at h with htruthy
    · obtain ⟨sourceText, conditionText, rfl, rfl, hname, hwritten⟩ := create_eq_some_iff.mp h
      have hne : sourceText ≠ [] := by
        simp only [Bool.and_eq_true, Json.truthy, decide_eq_true_eq] at htruthy
        exact htruthy.1
      exact ⟨⟨_, hne, hsource, hname⟩, ⟨_, hcondition, hwritten⟩⟩
    · cases h
  · rintro ⟨⟨source, hne, hsource, hname⟩, ⟨condition, hcondition, hwritten⟩⟩
    have hcondition_ne : condition ≠ [] := by
      obtain ⟨-, -, between, rest, -, rfl⟩ := hwritten
      simp
    refine ⟨_, hsource, _, hcondition, ?_⟩
    rw [if_pos (by simp [Json.truthy, hne, hcondition_ne])]
    exact create_eq_some_iff.mpr ⟨_, _, rfl, rfl, hname, hwritten⟩

theorem validMatchers_eq_some_iff {sources : List Json} {matchers : List SourceMatcher} :
    validMatchers env sources = .ok (some matchers) ↔
      List.Forall₂ (WrittenAs env) sources matchers := by
  induction sources generalizing matchers with
  | nil =>
    rw [validMatchers, List.forall₂_nil_left_iff]
    constructor
    · rintro ⟨⟩
      rfl
    · rintro rfl
      rfl
  | cons source sources ih =>
    simp only [validMatchers, ExceptList.bind_eq_ok_iff, List.forall₂_cons_left_iff]
    constructor
    · rintro ⟨created, hcreated, h⟩
      cases created with
      | none => cases h
      | some matcher =>
        obtain ⟨rest, hrest, h⟩ := ExceptList.bind_eq_ok_iff.mp h
        cases rest with
        | none => cases h
        | some rest =>
          cases h
          exact ⟨matcher, rest, createSource_eq_some_iff.mp hcreated, ih.mp hrest, rfl⟩
    · rintro ⟨matcher, rest, hmatcher, hrest, rfl⟩
      refine ⟨_, createSource_eq_some_iff.mpr hmatcher, ?_⟩
      exact ExceptList.bind_eq_ok_iff.mpr ⟨_, ih.mpr hrest, rfl⟩

theorem createSources_ok {sourcesJson : Json} {matchers : List SourceMatcher}
    (h : createSources env sourcesJson = .ok matchers) :
    ∃ sources, sourcesJson.iter = .ok sources ∧
      (List.Forall₂ (WrittenAs env) sources matchers ∨ matchers = []) := by
  simp only [createSources, ExceptList.bind_eq_ok_iff] at h
  obtain ⟨sources, hsources, valid, hvalid, h⟩ := h
  refine ⟨sources, hsources, ?_⟩
  cases valid with
  | none =>
    cases h
    exact .inr rfl
  | some valid =>
    cases h
    exact .inl (validMatchers_eq_some_iff.mp hvalid)

theorem createConfigRule_some {entityName : Text} {ruleJson : Json} {rule : ConfigRule}
    (h : createConfigRule env entityName ruleJson = .ok (some rule)) :
    WrittenRule env entityName ruleJson rule := by
  simp only [createConfigRule, ExceptList.bind_eq_ok_iff] at h
  obtain ⟨sourcesJson, hjson, h⟩ := h
  split_ifs at h
  · cases h
  · obtain ⟨matchers, hmatchers, h⟩ := ExceptList.bind_eq_ok_iff.mp h
    obtain ⟨sources, hsources, hwritten⟩ := createSources_ok hmatchers
    split_ifs at h with hnone
    · cases h
    · simp only [ExceptList.bind_eq_ok_iff] at h
      obtain ⟨attributesJson, -, items, -, attributes, -, h⟩ := h
      cases h
      have hordinary : entityName ∉ specialRuleNames → matchers ≠ [] := by
        intro hspecial hempty
        apply hnone
        simp [hempty, hspecial]
      refine ⟨rfl, ⟨sourcesJson, sources, hjson, hsources, ?_⟩, hordinary⟩
      rcases hwritten with hwritten | hempty
      · exact .inl hwritten
      · refine .inr ⟨?_, hempty⟩
        by_contra hspecial
        exact hordinary hspecial hempty

theorem BuiltRule.written {configs : List Json} {rule : ConfigRule}
    (h : BuiltRule env configs rule) : ∃ configJson ∈ configs, WrittenIn env configJson rule := by
  obtain ⟨configJson, hconfig, rules, hrules, hrule⟩ := h
  simp only [createConfigRules, ExceptList.bind_eq_ok_iff] at hrules
  obtain ⟨entityName, hname, rulesJson, hjson, items, hitems, created, hcreated, hrules⟩ := hrules
  cases hrules
  obtain ⟨ruleJson, hmem, hcreate⟩ :=
    ExceptList.exists_of_mem_mapM hcreated (List.reduceOption_mem_iff.mp hrule)
  exact ⟨configJson, hconfig, entityName, rulesJson, items, ruleJson, hname, hjson, hitems, hmem,
    createConfigRule_some hcreate⟩

theorem loadConfig_built {configs : List Json} {engine loaded : MetadataEngine}
    {configJson : Json} (hconfig : configJson ∈ configs)
    (h : loadConfig env engine configJson = .ok loaded)
    (hbuilt : ∀ rule ∈ engine.loadedRules, BuiltRule env configs rule) :
    ∀ rule ∈ loaded.loadedRules, BuiltRule env configs rule := by
  simp only [loadConfig, ExceptList.bind_eq_ok_iff] at h
  obtain ⟨name, -, rules, hrules, h⟩ := h
  have hnew : ∀ rule ∈ rules, BuiltRule env configs rule :=
    fun rule hrule => ⟨_, hconfig, rules, hrules, hrule⟩
  simp only [MetadataEngine.loadedRules, List.mem_append, Option.mem_toList] at hbuilt ⊢
  split_ifs at h
  · obtain ⟨first, hfirst, h⟩ := ExceptList.bind_eq_ok_iff.mp h
    cases h
    rintro rule (hrule | hdefault)
    · exact hbuilt rule (.inl hrule)
    · cases hdefault
      cases rules with
      | nil => cases hfirst
      | cons rule rules =>
        cases hfirst
        exact hnew _ List.mem_cons_self
  · obtain ⟨first, -, h⟩ := ExceptList.bind_eq_ok_iff.mp h
    cases h
    exact hbuilt
  · cases h
    rintro rule ((hrule | hrule) | hrule)
    · exact hbuilt rule (.inl (.inl hrule))
    · exact hnew rule hrule
    · exact hbuilt rule (.inr hrule)
  · cases h
    rintro rule ((hrule | hrule) | hrule)
    · rcases List.mem_append.mp hrule with hrule | hrule
      · exact hbuilt rule (.inl (.inl hrule))
      · exact hnew rule hrule
    · exact hbuilt rule (.inl (.inr hrule))
    · exact hbuilt rule (.inr hrule)

theorem loadConfigs_built (dtSecurityContext : Json) (files : List (Except PyError Json)) :
    ∀ rule ∈ (loadConfigs env dtSecurityContext files).loadedRules,
      BuiltRule env (files.filterMap Except.toOption) rule := by
  refine List.foldlRecOn (motive := fun engine : MetadataEngine => ∀ rule ∈ engine.loadedRules,
    BuiltRule env (files.filterMap Except.toOption) rule) files _ ?_ ?_
  · intro rule hrule
    cases hrule
  · intro engine hengine file hfile
    cases hloaded : file >>= loadConfig env engine with
    | error e => exact hengine
    | ok loaded =>
      obtain ⟨configJson, rfl, hloaded⟩ := ExceptList.bind_eq_ok_iff.mp hloaded
      exact loadConfig_built (List.mem_filterMap.mpr ⟨_, hfile, rfl⟩) hloaded hengine

end

end GcpMonitor.Logs
