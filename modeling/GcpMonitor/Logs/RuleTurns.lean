import GcpMonitor.Logs.ConfigRules
import GcpMonitor.Logs.LogContent
import Mathlib.Data.List.Infix

namespace GcpMonitor.Logs

open Python

def ConditionComparator.Holds (comparator : ConditionComparator) (x y : Text) : Prop :=
  match comparator with
  | .equals => x = y
  | .startsWith => y <+: x
  | .contains => y <:+: x

def SourceMatcher.sourceValue (matcher : SourceMatcher) (record : Json)
    (parsedRecord : ParsedRecord) : Option Json :=
  match matcher.extractor.extract record parsedRecord with
  | .ok .null => none
  | .ok value => some value
  | .error _ => none

/-- A rule at the moment when its matchers look at the record, and whether it is applied then. -/
structure Turn where
  rule : ConfigRule
  before : ParsedRecord
  applied : Bool

section

variable (env : RuleRuntime)

def SourceMatcher.Satisfied (matcher : SourceMatcher) (value : Json) : Prop :=
  matcher.evaluator.Holds (env.casefold (value.toStr env.pyRepr)) (env.casefold matcher.operand)

def SourceMatcher.MatchesNone (matcher : SourceMatcher) : Prop :=
  matcher.evaluator.Holds (env.casefold "None".toList) (env.casefold matcher.operand)

def takeTurns (record : Json) : List ConfigRule → ParsedRecord → List Turn
  | [], _ => []
  | rule :: rules, parsedRecord =>
    if ruleApplies env rule record parsedRecord then
      ⟨rule, parsedRecord, true⟩ :: takeTurns record rules (applyRule env record parsedRecord rule)
    else ⟨rule, parsedRecord, false⟩ :: takeTurns record rules parsedRecord

def rulesApplied (turns : List Turn) : List ConfigRule := (turns.filter Turn.applied).map Turn.rule

def MetadataEngine.turns (engine : MetadataEngine) (record : Json) (parsedRecord : ParsedRecord) :
    List Turn :=
  takeTurns env record (engine.rules ++ engine.auditLogsRules)
    (engine.commonRecord record parsedRecord)

/-- A run of the engine in which the rules are applied as their sources say, and the default rule
where no other one is. -/
structure FollowsSources (configs : List Json) (engine : MetadataEngine) (record : Json)
    (parsedRecord : ParsedRecord) : Prop where
  written : ∀ turn ∈ engine.turns env record parsedRecord,
    ∃ configJson ∈ configs, WrittenIn env configJson turn.rule
  absent : ∀ turn ∈ engine.turns env record parsedRecord,
    ∀ matcher ∈ turn.rule.sourceMatchers, matcher.sourceValue record turn.before = none →
      turn.applied = false
  present : ∀ turn ∈ engine.turns env record parsedRecord,
    (∀ matcher ∈ turn.rule.sourceMatchers, matcher.sourceValue record turn.before ≠ none) →
      (turn.applied = true ↔ ∀ matcher ∈ turn.rule.sourceMatchers,
        ∀ value, matcher.sourceValue record turn.before = some value →
          matcher.Satisfied env value)
  result : engine.apply env record parsedRecord =
    (rulesApplied (engine.turns env record parsedRecord) ++
      if (engine.turns env record parsedRecord).any Turn.applied then []
      else engine.defaultRule.toList).foldl (applyRule env record)
        (engine.commonRecord record parsedRecord)

/-- Where a source is absent, a comparison fails: the one of an absent source with the text of
`None`, or the one of a source that is there. -/
def Turn.AbsentUnmatched (record : Json) (turn : Turn) : Prop :=
  (∃ matcher ∈ turn.rule.sourceMatchers, matcher.sourceValue record turn.before = none) →
    ∃ matcher ∈ turn.rule.sourceMatchers,
      (matcher.sourceValue record turn.before = none ∧ ¬ matcher.MatchesNone env) ∨
        ∃ value, matcher.sourceValue record turn.before = some value ∧
          ¬ matcher.Satisfied env value

end

section

variable {env : RuleRuntime} {engine : MetadataEngine} {record : Json} {rules : List ConfigRule}
  {parsedRecord : ParsedRecord} {entries : List (Text × Json)}

theorem compare_eq_true_iff (comparator : ConditionComparator) (x y : Text) :
    comparator.compare x y = true ↔ comparator.Holds x y := by
  cases comparator with
  | equals => exact decide_eq_true_iff
  | startsWith => exact List.isPrefixOf_iff_prefix
  | contains =>
    rw [ConditionComparator.compare, List.any_eq_true, ConditionComparator.Holds,
      List.infix_iff_prefix_suffix]
    constructor
    · rintro ⟨t, ht, hy⟩
      exact ⟨t, List.isPrefixOf_iff_prefix.mp hy, (List.mem_tails _ _).mp ht⟩
    · rintro ⟨t, hy, ht⟩
      exact ⟨t, (List.mem_tails _ _).mpr ht, List.isPrefixOf_iff_prefix.mpr hy⟩

theorem matches_of_object (env : RuleRuntime) (entries : List (Text × Json))
    (parsedRecord : ParsedRecord) (matcher : SourceMatcher) :
    ∃ matched, matcher.matches env (.map entries) parsedRecord = .ok matched ∧
      (matched = true ↔
        matcher.Satisfied env ((matcher.sourceValue (.map entries) parsedRecord).getD .null)) := by
  obtain ⟨value, hvalue⟩ : ∃ value, matcher.extractor.extract (.map entries) parsedRecord =
      .ok value := by
    cases matcher.extractor <;> exact ⟨_, rfl⟩
  have hsource : (matcher.sourceValue (.map entries) parsedRecord).getD .null = value := by
    rw [SourceMatcher.sourceValue, hvalue]
    cases value <;> rfl
  rw [SourceMatcher.matches, hvalue, hsource]
  exact ⟨_, rfl, compare_eq_true_iff _ _ _⟩

theorem matchAll_eq_true_iff (matchers : List SourceMatcher) :
    matchAll env (.map entries) parsedRecord matchers = .ok true ↔ ∀ matcher ∈ matchers,
      matcher.Satisfied env ((matcher.sourceValue (.map entries) parsedRecord).getD .null) := by
  induction matchers with
  | nil => simp [matchAll]
  | cons matcher matchers ih =>
    obtain ⟨matched, hmatched, hiff⟩ := matches_of_object env entries parsedRecord matcher
    rw [matchAll, hmatched, List.forall_mem_cons, ← hiff, ← ih]
    cases matched with
    | true =>
      rw [eq_self_iff_true, true_and]
      rfl
    | false =>
      constructor
      · intro h
        cases h
      · rintro ⟨h, -⟩
        cases h

theorem ruleApplies_iff (rule : ConfigRule) :
    ruleApplies env rule (.map entries) parsedRecord = true ↔
      ∀ matcher ∈ rule.sourceMatchers,
        matcher.Satisfied env ((matcher.sourceValue (.map entries) parsedRecord).getD .null) := by
  rw [← matchAll_eq_true_iff, ruleApplies, checkIfRuleApplies]
  obtain ⟨applies, happlies⟩ := matchAll_of_object env entries parsedRecord rule.sourceMatchers
  rw [happlies]
  cases applies with
  | true => simp
  | false => simp

theorem mem_takeTurns {turn : Turn} (h : turn ∈ takeTurns env record rules parsedRecord) :
    turn.rule ∈ rules ∧ turn.applied = ruleApplies env turn.rule record turn.before := by
  induction rules generalizing parsedRecord with
  | nil => cases h
  | cons rule rules ih =>
    rw [takeTurns] at h
    split_ifs at h with happlies
    · rcases List.mem_cons.mp h with rfl | h
      · exact ⟨List.mem_cons_self, happlies.symm⟩
      · exact ⟨List.mem_cons_of_mem _ (ih h).1, (ih h).2⟩
    · rcases List.mem_cons.mp h with rfl | h
      · exact ⟨List.mem_cons_self, (Bool.eq_false_iff.mpr happlies).symm⟩
      · exact ⟨List.mem_cons_of_mem _ (ih h).1, (ih h).2⟩

theorem rulesApplied_takeTurns :
    rulesApplied (takeTurns env record rules parsedRecord) =
      appliedRules env record rules parsedRecord := by
  induction rules generalizing parsedRecord with
  | nil => rfl
  | cons rule rules ih =>
    rw [takeTurns, appliedRules]
    split_ifs
    · rw [← ih]
      rfl
    · rw [← ih]
      rfl

theorem appliedRules_append (more : List ConfigRule) :
    appliedRules env record (rules ++ more) parsedRecord =
      appliedRules env record rules parsedRecord ++
        appliedRules env record more
          ((appliedRules env record rules parsedRecord).foldl (applyRule env record)
            parsedRecord) := by
  induction rules generalizing parsedRecord with
  | nil => rfl
  | cons rule rules ih =>
    rw [List.cons_append, appliedRules, appliedRules]
    split_ifs
    · rw [ih]
      rfl
    · exact ih

theorem isEmpty_rulesApplied (turns : List Turn) :
    (rulesApplied turns).isEmpty = !turns.any Turn.applied := by
  rw [rulesApplied, List.isEmpty_map, Bool.eq_iff_iff]
  simp [List.filter_eq_nil_iff]

theorem appliedRules_eq_turns :
    engine.appliedRules env record parsedRecord =
      rulesApplied (engine.turns env record parsedRecord) ++
        if (engine.turns env record parsedRecord).any Turn.applied then []
        else engine.defaultRule.toList := by
  have hnone := isEmpty_rulesApplied (engine.turns env record parsedRecord)
  rw [MetadataEngine.turns, rulesApplied_takeTurns, appliedRules_append] at hnone ⊢
  simp only [MetadataEngine.appliedRules]
  generalize Logs.appliedRules env record engine.rules _ = first at hnone ⊢
  generalize Logs.appliedRules env record engine.auditLogsRules _ = second at hnone ⊢
  have hempty : (first.isEmpty && second.isEmpty) = (first ++ second).isEmpty := by
    cases first <;> rfl
  rw [hempty, hnone]
  cases hany : (takeTurns env record (engine.rules ++ engine.auditLogsRules)
      (engine.commonRecord record parsedRecord)).any Turn.applied with
  | true => simp
  | false =>
    rw [hany] at hnone
    rw [List.isEmpty_iff.mp hnone]
    rfl

theorem apply_eq_turns (hreadable : commonAttributesReadable record = true) :
    engine.apply env record parsedRecord =
      (rulesApplied (engine.turns env record parsedRecord) ++
        if (engine.turns env record parsedRecord).any Turn.applied then []
        else engine.defaultRule.toList).foldl (applyRule env record)
          (engine.commonRecord record parsedRecord) := by
  rw [MetadataEngine.apply_of_readable env hreadable, appliedRules_eq_turns]

theorem turn_applied_iff {turn : Turn}
    (hturn : turn ∈ engine.turns env (.map entries) parsedRecord) :
    turn.applied = true ↔ ∀ matcher ∈ turn.rule.sourceMatchers,
      matcher.Satisfied env ((matcher.sourceValue (.map entries) turn.before).getD .null) := by
  rw [(mem_takeTurns hturn).2, ruleApplies_iff]

theorem absentUnmatched_iff {turn : Turn}
    (hturn : turn ∈ engine.turns env (.map entries) parsedRecord) :
    turn.AbsentUnmatched env (.map entries) ↔ ∀ matcher ∈ turn.rule.sourceMatchers,
      matcher.sourceValue (.map entries) turn.before = none → turn.applied = false := by
  constructor
  · intro hunmatched matcher hmatcher habsent
    rw [Bool.eq_false_iff, ne_eq, turn_applied_iff hturn]
    intro hall
    obtain ⟨other, hother, ⟨hnone, hfails⟩ | ⟨value, hvalue, hfails⟩⟩ :=
      hunmatched ⟨matcher, hmatcher, habsent⟩
    · have hsatisfied := hall other hother
      rw [hnone] at hsatisfied
      exact hfails hsatisfied
    · have hsatisfied := hall other hother
      rw [hvalue] at hsatisfied
      exact hfails hsatisfied
  · rintro hfollows ⟨matcher, hmatcher, habsent⟩
    have hnot := hfollows matcher hmatcher habsent
    rw [Bool.eq_false_iff, ne_eq, turn_applied_iff hturn] at hnot
    push Not at hnot
    obtain ⟨other, hother, hfails⟩ := hnot
    refine ⟨other, hother, ?_⟩
    cases hvalue : other.sourceValue (.map entries) turn.before with
    | none =>
      rw [hvalue] at hfails
      exact .inl ⟨rfl, hfails⟩
    | some value =>
      rw [hvalue] at hfails
      exact .inr ⟨value, rfl, hfails⟩

theorem turn_of_present {turn : Turn}
    (hturn : turn ∈ engine.turns env (.map entries) parsedRecord)
    (hpresent : ∀ matcher ∈ turn.rule.sourceMatchers,
      matcher.sourceValue (.map entries) turn.before ≠ none) :
    turn.applied = true ↔ ∀ matcher ∈ turn.rule.sourceMatchers,
      ∀ value, matcher.sourceValue (.map entries) turn.before = some value →
        matcher.Satisfied env value := by
  rw [turn_applied_iff hturn]
  constructor
  · intro hall matcher hmatcher value hvalue
    have hsatisfied := hall matcher hmatcher
    rw [hvalue] at hsatisfied
    exact hsatisfied
  · intro hall matcher hmatcher
    obtain ⟨value, hvalue⟩ := Option.ne_none_iff_exists'.mp (hpresent matcher hmatcher)
    rw [hvalue]
    exact hall matcher hmatcher value hvalue

theorem absentUnmatched_of_operands
    (h : ∀ rule ∈ engine.rules ++ engine.auditLogsRules, ∀ matcher ∈ rule.sourceMatchers,
      ¬ matcher.MatchesNone env) :
    ∀ turn ∈ engine.turns env record parsedRecord, turn.AbsentUnmatched env record := by
  rintro turn hturn ⟨matcher, hmatcher, habsent⟩
  exact ⟨matcher, hmatcher, .inl ⟨habsent, h _ (mem_takeTurns hturn).1 matcher hmatcher⟩⟩

theorem loadConfigs_ordinary_built (dtSecurityContext : Json)
    (files : List (Except PyError Json)) :
    ∀ rule ∈ (loadConfigs env dtSecurityContext files).rules ++
      (loadConfigs env dtSecurityContext files).auditLogsRules,
      BuiltRule env (files.filterMap Except.toOption) rule :=
  fun rule hrule => loadConfigs_built dtSecurityContext files rule (List.mem_append_left _ hrule)

end

theorem follows_sources_iff (env : RuleRuntime) (configs : List Json) (engine : MetadataEngine)
    {record : Json} (parsedRecord : ParsedRecord)
    (hbuilt : ∀ rule ∈ engine.rules ++ engine.auditLogsRules, BuiltRule env configs rule)
    (hreadable : commonAttributesReadable record = true) :
    FollowsSources env configs engine record parsedRecord ↔
      ∀ turn ∈ engine.turns env record parsedRecord, turn.AbsentUnmatched env record := by
  obtain ⟨entries, rfl⟩ := object_of_readable hreadable
  constructor
  · intro hfollows turn hturn
    exact (absentUnmatched_iff hturn).mpr (hfollows.absent turn hturn)
  · intro hunmatched
    constructor
    · intro turn hturn
      exact (hbuilt turn.rule (mem_takeTurns hturn).1).written
    · intro turn hturn
      exact (absentUnmatched_iff hturn).mp (hunmatched turn hturn)
    · intro turn hturn
      exact turn_of_present hturn
    · exact apply_eq_turns hreadable

def logNameConfig (name condition : String) : Json :=
  .map [("name".toList, .str name.toList),
    ("rules".toList, .list [.map [
      ("sources".toList, .list [.map [("source".toList, .str "logName".toList),
        ("condition".toList, .str condition.toList)]]),
      ("attributes".toList, .list [.map [("key".toList, .str "content".toList),
        ("pattern".toList, .str "@".toList)]])]])]

def nginxConfig : Json := logNameConfig "nginx" "$prefix('n')"

def nginxEngine : MetadataEngine :=
  loadConfigs plainRuntime.toRuleRuntime .null [.ok nginxConfig]

theorem absent_log_name_matches :
    ¬ ∀ (env : RuleRuntime) (configs : List Json) (engine : MetadataEngine) (record : Json)
      (parsedRecord : ParsedRecord),
      (∀ rule ∈ engine.rules ++ engine.auditLogsRules, BuiltRule env configs rule) →
      commonAttributesReadable record = true →
      FollowsSources env configs engine record parsedRecord := by
  intro hclaim
  have hfollows := hclaim plainRuntime.toRuleRuntime [nginxConfig] nginxEngine (.map []) .empty
    (loadConfigs_ordinary_built _ _) rfl
  have happlied : (nginxEngine.turns plainRuntime.toRuleRuntime (.map []) .empty).any (fun turn =>
      turn.applied && turn.rule.sourceMatchers.any (fun matcher =>
        (matcher.sourceValue (.map []) turn.before).isNone)) = true := by
    decide +kernel
  obtain ⟨turn, hturn, hboth⟩ := List.any_eq_true.mp happlied
  obtain ⟨happlied, hmatchers⟩ := (Bool.and_eq_true _ _).mp hboth
  obtain ⟨matcher, hmatcher, habsent⟩ := List.any_eq_true.mp hmatchers
  have hnot := hfollows.absent turn hturn matcher hmatcher (Option.isNone_iff_eq_none.mp habsent)
  rw [happlied] at hnot
  contradiction

def auditConfig : Json := logNameConfig "audit_logs" "$contains('cloudaudit.googleapis.com')"

def auditEngine : MetadataEngine :=
  loadConfigs plainRuntime.toRuleRuntime .null [.ok auditConfig]

theorem follows_sources_audit :
    FollowsSources plainRuntime.toRuleRuntime [auditConfig] auditEngine
      (.map [("logName".toList, .str "projects/p/logs/CloudAudit.googleapis.com".toList)])
      .empty := by
  apply (follows_sources_iff plainRuntime.toRuleRuntime [auditConfig] auditEngine .empty
    (loadConfigs_ordinary_built _ _) rfl).mpr
  apply absentUnmatched_of_operands
  have hoperands : (auditEngine.rules ++ auditEngine.auditLogsRules).all (fun rule =>
      rule.sourceMatchers.all (fun matcher => !matcher.evaluator.compare
        (plainRuntime.casefold "None".toList) (plainRuntime.casefold matcher.operand))) = true := by
    decide +kernel
  intro rule hrule matcher hmatcher hnone
  have hnot := List.all_eq_true.mp (List.all_eq_true.mp hoperands rule hrule) matcher hmatcher
  rw [(compare_eq_true_iff _ _ _).mpr hnone] at hnot
  contradiction

end GcpMonitor.Logs
