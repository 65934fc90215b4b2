import GcpMonitor.Metrics.ExtractValue
import Mathlib.Algebra.Order.Ring.Rat

namespace GcpMonitor.Metrics

open Python

/-- The product of the number and a hundred is a number of Python itself. -/
def ScalesExactly : Number → Prop
  | .float (.finite q) => fitsFloat (100 * q) = true ∧ binary64 (100 * q) = 100 * q
  | _ => True

def IsHundredfold (scaled x : Number) : Prop :=
  match x.toRat with
  | some q => scaled.toRat = some (100 * q)
  | none => scaled = x

inductive Reading where
  | number (x : Number)
  | distribution (d : Summary Number)

def Reading.IsHundredTimes : Reading → Reading → Prop
  | .number scaled, .number x => IsHundredfold scaled x
  | .distribution scaled, .distribution d =>
    IsHundredfold scaled.min d.min ∧ IsHundredfold scaled.max d.max ∧ scaled.count = d.count ∧
      IsHundredfold scaled.sum d.sum
  | _, _ => False

variable (L : FloatLibrary)

def ExtractedValue.reading (typedValueKey : Text) : ExtractedValue Number → Option Reading
  | .text s =>
    if typedValueKey = "distributionValue".toList then
      (readSummary (Number.read L) (.text s)).toOption.map .distribution
    else (Text.int s).map (fun n : ℤ => .number (.int n))
  | .number x => some (.number x)
  | .bool b => some (.number (.int (if b then 1 else 0)))

/-- The same failure, or no value in both cases, or a hundred times the value. -/
def IsHundredTimes (typedValueKey : Text) : Except PyError (Option (ExtractedValue Number)) →
    Except PyError (Option (ExtractedValue Number)) → Prop
  | .error scaledError, .error error => scaledError = error
  | .ok none, .ok none => True
  | .ok (some scaledValue), .ok (some value) =>
    ∃ scaled reading, scaledValue.reading L typedValueKey = some scaled ∧
      value.reading L typedValueKey = some reading ∧ scaled.IsHundredTimes reading
  | _, _ => False

def mergeLines (first : Text) (rest : List Text) : Except PyError PyValue :=
  (rest.map PyValue.text).foldlM (mergeDistributionValues (.binary L)) (.text first)

def ExtractsLine (metric : Metric) (value : TypedValue Number) (line : Text) : Prop :=
  extractValue (.binary L) value "distributionValue".toList metric = .ok (some (.text line))

def ReadsFloats (value : PyValue) (d : Summary PyFloat) : Prop :=
  readSummary L.parse value = .ok d

def Summary.mergeFloats (d e : Summary PyFloat) : Summary PyFloat where
  min := if e.min.isLess d.min then e.min else d.min
  max := if d.max.isLess e.max then e.max else d.max
  count := d.count + e.count
  sum := d.sum.add e.sum

/-- The merge of the lines of a metric is the least, the greatest and the sum of what the lines say
themselves, with no factor. -/
def MergesUnscaled (metric : Metric) : Prop :=
  ∀ (value : TypedValue Number) (values : List (TypedValue Number)) (first : Text)
    (rest : List Text),
    ExtractsLine L metric value first → List.Forall₂ (ExtractsLine L metric) values rest →
      ∃ merged d ds, mergeLines L first rest = .ok merged ∧ ReadsFloats L (.text first) d ∧
        List.Forall₂ (ReadsFloats L) (rest.map .text) ds ∧
        ReadsFloats L merged (ds.foldl Summary.mergeFloats d)

section Scaling

theorem isHundredfold_hundredTimes (x : Number) :
    IsHundredfold x.hundredTimes x ↔ ScalesExactly x := by
  cases x with
  | int n => simp [IsHundredfold, ScalesExactly, Number.hundredTimes, Number.toRat]
  | float x =>
    cases x with
    | finite q =>
      change (PyFloat.ofRat (100 * q)).toRat = some (100 * q) ↔ _
      rw [ScalesExactly, PyFloat.ofRat]
      split_ifs with hfits <;> simp [hfits, PyFloat.toRat]
    | infinity negative =>
      have hsame : (Number.float (.infinity negative)).hundredTimes =
          .float (.infinity negative) := by
        cases negative <;> decide
      exact iff_of_true hsame trivial
    | nan => exact iff_of_true rfl trivial

end Scaling

section Lines

def IsGaugeLine (line : Text) : Prop :=
  ∃ distMin distMax distCount distSum distUnit,
    line = gaugeLine (.binary L) distMin distMax distCount distSum distUnit

variable {L}

theorem isGaugeLine_of_extractsLine {metric : Metric} {value : TypedValue Number} {line : Text}
    (h : ExtractsLine L metric value line) : IsGaugeLine L line := by
  rw [ExtractsLine, extractValue, if_pos rfl] at h
  obtain ⟨distribution, -, h⟩ := ExceptList.bind_eq_ok_iff.mp h
  obtain ⟨extracted, hextract, h⟩ := ExceptList.bind_eq_ok_iff.mp h
  obtain ⟨summary, -, hsummary⟩ := ExceptList.bind_eq_ok_iff.mp hextract
  cases hsummary
  cases summary with
  | none => cases h
  | some d =>
    cases h
    exact ⟨d.min, d.max, d.count, d.sum, metric.unit, rfl⟩

theorem asFloat_least (x y : PyFloat) :
    ((Arithmetic.binary L).least (.float x) (.float y)).asFloat =
      if y.isLess x then y else x := by
  change (if y.isLess x then Number.float y else .float x).asFloat = _
  split_ifs <;> rfl

theorem asFloat_greatest (x y : PyFloat) :
    ((Arithmetic.binary L).greatest (.float x) (.float y)).asFloat =
      if x.isLess y then y else x := by
  change (if x.isLess y then Number.float y else .float x).asFloat = _
  split_ifs <;> rfl

theorem readsFloats_gaugeLine (distMin distMax : Number) (distCount : ℤ) (distSum : Number)
    (distUnit : Option Text) :
    ReadsFloats L (.text (gaugeLine (.binary L) distMin distMax distCount distSum distUnit))
      ⟨(scale (.binary L) distUnit distMin).asFloat, (scale (.binary L) distUnit distMax).asFloat,
        distCount, (scale (.binary L) distUnit distSum).asFloat⟩ :=
  readSummary_gaugeLine (.binary L) (Number.parse_str L) distMin distMax distCount distSum distUnit

theorem IsGaugeLine.merge {first second : Text} (hfirst : IsGaugeLine L first)
    (hsecond : IsGaugeLine L second) :
    ∃ merged d e, mergeDistributionValues (.binary L) (.text first) (.text second) =
        .ok (.text merged) ∧ IsGaugeLine L merged ∧ ReadsFloats L (.text first) d ∧
      ReadsFloats L (.text second) e ∧ ReadsFloats L (.text merged) (d.mergeFloats e) := by
  obtain ⟨a, b, c, s, unit, rfl⟩ := hfirst
  obtain ⟨a', b', c', s', unit', rfl⟩ := hsecond
  refine ⟨_, _, _, mergeDistributionValues_gaugeLine _ a b s a' b' s' c c' unit unit',
    ⟨_, _, _, _, _, rfl⟩, readsFloats_gaugeLine a b c s unit,
    readsFloats_gaugeLine a' b' c' s' unit', ?_⟩
  refine (readsFloats_gaugeLine _ _ _ _ none).trans ?_
  rw [scale_none, scale_none, scale_none]
  simp only [Summary.mergeFloats]
  rw [← asFloat_least (L := L), ← asFloat_greatest (L := L)]
  rfl

theorem IsGaugeLine.foldlM {first : Text} {rest : List Text} (hfirst : IsGaugeLine L first)
    (hrest : ∀ line ∈ rest, IsGaugeLine L line) :
    ∃ merged d ds, mergeLines L first rest = .ok merged ∧ ReadsFloats L (.text first) d ∧
      List.Forall₂ (ReadsFloats L) (rest.map .text) ds ∧
      ReadsFloats L merged (ds.foldl Summary.mergeFloats d) := by
  induction rest generalizing first with
  | nil =>
    obtain ⟨a, b, c, s, unit, rfl⟩ := hfirst
    have hreads := readsFloats_gaugeLine (L := L) a b c s unit
    exact ⟨_, _, [], rfl, hreads, .nil, hreads⟩
  | cons second rest ih =>
    obtain ⟨hsecond, hrest⟩ := List.forall_mem_cons.mp hrest
    obtain ⟨next, d, e, hmerge, hnext, hd, he, hmerged⟩ := hfirst.merge hsecond
    obtain ⟨merged, f, ds, hfold, hf, hds, hreads⟩ := ih hnext hrest
    -- a line reads as one summary only
    cases Except.ok.inj (hf.symm.trans hmerged)
    refine ⟨merged, d, e :: ds, ?_, hd, .cons he hds, hreads⟩
    rw [mergeLines, List.map_cons, List.foldlM_cons, hmerge]
    exact hfold

theorem mergesUnscaled (metric : Metric) : MergesUnscaled L metric := by
  intro value values first rest hfirst hrest
  apply (isGaugeLine_of_extractsLine hfirst).foldlM
  intro line hline
  obtain ⟨i, hi, rfl⟩ := List.getElem_of_mem hline
  have hlength : i < values.length := hrest.length_eq ▸ hi
  exact isGaugeLine_of_extractsLine (hrest.get hlength hi)

end Lines

theorem extractValue_of_none {value : TypedValue Number} (metric : Metric)
    (hvalue : value.distributionValue = none) :
    extractValue (.binary L) value "distributionValue".toList metric = .error .keyError := by
  rw [extractValue, if_pos rfl, hvalue]
  rfl

theorem extractValue_of_some {value : TypedValue Number} {point : DistributionValue Number}
    (metric : Metric) (hvalue : value.distributionValue = some point) :
    extractValue (.binary L) value "distributionValue".toList metric =
      (summarize (.binary L) point).map (fun summary => summary.map (fun d =>
        .text (gaugeLine (.binary L) d.min d.max d.count d.sum metric.unit))) := by
  rw [extractValue, if_pos rfl, hvalue]
  simp only [field, Option.elim, bind, Except.bind, extractDistribution]
  cases summarize (.binary L) point with
  | error e => rfl
  | ok summary => cases summary <;> rfl

section Metrics

variable {percentMetric metric : Metric} (hpercent : percentMetric.unit = some unit10To2Percent)
  (hother : metric.unit ≠ some unit10To2Percent)

include hpercent hother

theorem isHundredTimes_gaugeLine (d : Summary Number) :
    IsHundredTimes L "distributionValue".toList
        (.ok (some (.text (gaugeLine (.binary L) d.min d.max d.count d.sum percentMetric.unit))))
        (.ok (some (.text (gaugeLine (.binary L) d.min d.max d.count d.sum metric.unit)))) ↔
      ScalesExactly d.min ∧ ScalesExactly d.max ∧ ScalesExactly d.sum := by
  have hreading : ∀ unit, (ExtractedValue.text
      (gaugeLine (.binary L) d.min d.max d.count d.sum unit)).reading L
        "distributionValue".toList = some (.distribution ⟨scale (.binary L) unit d.min,
          scale (.binary L) unit d.max, d.count, scale (.binary L) unit d.sum⟩) := by
    intro unit
    rw [ExtractedValue.reading, if_pos rfl,
      readSummary_gaugeLine (.binary L) (f := id) (Number.read_str L)]
    rfl
  have hscaled : ∀ x : Number, scale (.binary L) percentMetric.unit x = x.hundredTimes :=
    fun x => if_pos hpercent
  have hsame : ∀ x : Number, scale (.binary L) metric.unit x = x := fun x => if_neg hother
  have hscales := isHundredfold_hundredTimes
  constructor
  · rintro ⟨scaled, reading, hscaledReading, hvalue, h⟩
    cases (hreading _).symm.trans hscaledReading
    cases (hreading _).symm.trans hvalue
    obtain ⟨hmin, hmax, -, hsum⟩ := h
    simp only [hscaled, hsame, hscales] at hmin hmax hsum
    exact ⟨hmin, hmax, hsum⟩
  · rintro ⟨hmin, hmax, hsum⟩
    refine ⟨_, _, hreading _, hreading _, ?_⟩
    simp only [Reading.IsHundredTimes, hscaled, hsame, hscales]
    exact ⟨hmin, hmax, trivial, hsum⟩

theorem isHundredTimes_distributionValue (value : TypedValue Number) :
    IsHundredTimes L "distributionValue".toList
        (extractValue (.binary L) value "distributionValue".toList percentMetric)
        (extractValue (.binary L) value "distributionValue".toList metric) ↔
      ∀ point d, value.distributionValue = some point →
        summarize (.binary L) point = .ok (some d) →
          ScalesExactly d.min ∧ ScalesExactly d.max ∧ ScalesExactly d.sum := by
  cases hvalue : value.distributionValue with
  | none =>
    rw [extractValue_of_none L _ hvalue, extractValue_of_none L _ hvalue]
    refine iff_of_true rfl ?_
    intro point d h
    cases h
  | some point =>
    rw [extractValue_of_some L _ hvalue, extractValue_of_some L _ hvalue]
    cases hsummary : summarize (.binary L) point with
    | error e =>
      refine iff_of_true rfl ?_
      rintro _ d ⟨⟩ hd
      rw [hsummary] at hd
      cases hd
    | ok summary =>
      cases summary with
      | none =>
        refine iff_of_true trivial ?_
        rintro _ d ⟨⟩ hd
        rw [hsummary] at hd
        cases hd
      | some d =>
        refine (isHundredTimes_gaugeLine L hpercent hother d).trans ?_
        constructor
        · rintro h _ e ⟨⟩ he
          rw [hsummary] at he
          cases he
          exact h
        · intro h
          exact h point d rfl hsummary

theorem isHundredTimes_iff_item {typedValueKey : Text}
    (hkey : typedValueKey ≠ "distributionValue".toList) (value : TypedValue Number) :
    IsHundredTimes L typedValueKey (extractValue (.binary L) value typedValueKey percentMetric)
        (extractValue (.binary L) value typedValueKey metric) ↔
      ∀ item, value.item typedValueKey = .ok item →
        ∃ scaled reading, (item.hundredTimes (.binary L)).reading L typedValueKey = some scaled ∧
          item.reading L typedValueKey = some reading ∧ scaled.IsHundredTimes reading := by
  rw [extractValue, extractValue, if_neg hkey, if_neg hkey]
  cases value.item typedValueKey with
  | error error => exact iff_of_true rfl nofun
  | ok item =>
    simp only [bind, Except.bind, if_pos hpercent, if_neg hother]
    constructor
    · intro h item hitem
      cases hitem
      exact h
    · intro h
      exact h item rfl

theorem isHundredTimes_int64Value (value : TypedValue Number) {n : ℤ}
    (hint64 : value.int64Value = some (Text.ofInt n)) :
    IsHundredTimes L "int64Value".toList
        (extractValue (.binary L) value "int64Value".toList percentMetric)
        (extractValue (.binary L) value "int64Value".toList metric) ↔ n = 0 := by
  have hkey : "int64Value".toList ≠ "distributionValue".toList := by decide
  have hitem : value.item "int64Value".toList = .ok (.text (Text.ofInt n)) := by
    rw [TypedValue.item, if_pos rfl, hint64]
    rfl
  have hreading : ∀ s : Text, (ExtractedValue.text s).reading L "int64Value".toList =
      (Text.int s).map (fun n : ℤ => .number (.int n)) := by
    intro s
    rw [ExtractedValue.reading, if_neg hkey]
  rw [isHundredTimes_iff_item L hpercent hother hkey, hitem]
  constructor
  · intro h
    obtain ⟨scaled, reading, hscaled, hvalue, htimes⟩ := h _ rfl
    rw [hreading, Text.int_ofInt] at hvalue
    cases hvalue
    rw [ExtractedValue.hundredTimes, hreading] at hscaled
    obtain ⟨m, hm, rfl⟩ := Option.map_eq_some_iff.mp hscaled
    have hproduct : m = 100 * n := by
      have hcast : (m : ℚ) = 100 * (n : ℚ) := Option.some.inj htimes
      exact_mod_cast hcast
    by_contra hn
    rw [hproduct] at hm
    exact Text.int_replicate_ofInt hn (by decide : 2 ≤ 100) hm
  · rintro rfl item hitem
    cases hitem
    have hzero : Text.int (List.replicate 100 (Text.ofInt 0)).flatten = some 0 := by
      decide +kernel
    refine ⟨.number (.int 0), .number (.int 0), ?_, ?_, ?_⟩
    · rw [ExtractedValue.hundredTimes, hreading, hzero]
      rfl
    · rw [hreading, Text.int_ofInt]
      rfl
    · simp [Reading.IsHundredTimes, IsHundredfold, Number.toRat]

theorem isHundredTimes_doubleValue (value : TypedValue Number) :
    IsHundredTimes L "doubleValue".toList
        (extractValue (.binary L) value "doubleValue".toList percentMetric)
        (extractValue (.binary L) value "doubleValue".toList metric) ↔
      ∀ x, value.doubleValue = some x → ScalesExactly x := by
  have hitem : value.item "doubleValue".toList = (field value.doubleValue).map .number := by
    rw [TypedValue.item, if_neg (by decide), if_pos rfl]
  rw [isHundredTimes_iff_item L hpercent hother (by decide), hitem]
  cases value.doubleValue with
  | none => exact iff_of_true nofun nofun
  | some x =>
    constructor
    · rintro h _ ⟨⟩
      obtain ⟨scaled, reading, hscaled, hvalue, htimes⟩ := h _ rfl
      cases hscaled
      cases hvalue
      exact (isHundredfold_hundredTimes x).mp htimes
    · rintro h _ ⟨⟩
      exact ⟨_, _, rfl, rfl, (isHundredfold_hundredTimes x).mpr (h x rfl)⟩

theorem isHundredTimes_other (value : TypedValue Number) {typedValueKey : Text}
    (hint64 : typedValueKey ≠ "int64Value".toList) (hdouble : typedValueKey ≠ "doubleValue".toList)
    (hdistribution : typedValueKey ≠ "distributionValue".toList) :
    IsHundredTimes L typedValueKey (extractValue (.binary L) value typedValueKey percentMetric)
      (extractValue (.binary L) value typedValueKey metric) := by
  rw [isHundredTimes_iff_item L hpercent hother hdistribution]
  intro item hitem
  rw [TypedValue.item, if_neg hint64, if_neg hdouble] at hitem
  split_ifs at hitem
  cases hbool : value.boolValue with
  | none =>
    rw [hbool] at hitem
    cases hitem
  | some b =>
    rw [hbool] at hitem
    cases hitem
    refine ⟨_, _, rfl, rfl, ?_⟩
    cases b <;> simp [Reading.IsHundredTimes, IsHundredfold, Arithmetic.binary, Number.toRat]

theorem percent_scaling_iff (value : TypedValue Number) (typedValueKey : Text)
    (hint64 : ∀ s, value.int64Value = some s → ∃ n : ℤ, s = Text.ofInt n) :
    (IsHundredTimes L typedValueKey (extractValue (.binary L) value typedValueKey percentMetric)
        (extractValue (.binary L) value typedValueKey metric) ∧
      MergesUnscaled L percentMetric) ↔
      (typedValueKey = "int64Value".toList →
        ∀ s, value.int64Value = some s → s = "0".toList) ∧
      (typedValueKey = "doubleValue".toList →
        ∀ x, value.doubleValue = some x → ScalesExactly x) ∧
      (typedValueKey = "distributionValue".toList →
        ∀ point d, value.distributionValue = some point →
          summarize (.binary L) point = .ok (some d) →
            ScalesExactly d.min ∧ ScalesExactly d.max ∧ ScalesExactly d.sum) := by
  rw [and_iff_left (mergesUnscaled percentMetric)]
  by_cases hkey : typedValueKey = "int64Value".toList
  · subst hkey
    have hrest : ∀ p q : Prop, (("int64Value".toList = "doubleValue".toList → p) ∧
        ("int64Value".toList = "distributionValue".toList → q)) := by
      intro p q
      exact ⟨fun h => absurd h (by decide), fun h => absurd h (by decide)⟩
    rw [and_iff_left (hrest _ _), forall_prop_of_true rfl]
    cases hvalue : value.int64Value with
    | none =>
      refine iff_of_true ?_ nofun
      rw [isHundredTimes_iff_item L hpercent hother (by decide)]
      intro item hitem
      rw [TypedValue.item, if_pos rfl, hvalue] at hitem
      cases hitem
    | some s =>
      obtain ⟨n, rfl⟩ := hint64 s hvalue
      rw [isHundredTimes_int64Value L hpercent hother value hvalue]
      constructor
      · rintro rfl s hs
        cases hs
        rfl
      · intro h
        have hint := congrArg Text.int (h _ rfl)
        rw [Text.int_ofInt] at hint
        exact Option.some.inj (hint.trans (by decide +kernel))
  rw [and_iff_right (fun h => absurd h hkey)]
  by_cases hdouble : typedValueKey = "doubleValue".toList
  · subst hdouble
    rw [isHundredTimes_doubleValue L hpercent hother, and_iff_left (fun h => absurd h (by decide)),
      forall_prop_of_true rfl]
  rw [and_iff_right (fun h => absurd h hdouble)]
  by_cases hdistribution : typedValueKey = "distributionValue".toList
  · subst hdistribution
    rw [isHundredTimes_distributionValue L hpercent hother, forall_prop_of_true rfl]
  · exact iff_of_true (isHundredTimes_other L hpercent hother value hkey hdouble hdistribution)
      (fun h => absurd h hdistribution)

end Metrics

def utilizationMetric (unit : Option Text) : Metric :=
  Metric.init {
    name := none
    key := some "cloud.gcp.pubsub.backlog".toList
    value := some "metric:pubsub.googleapis.com/subscription/num_undelivered_messages".toList
    type := some "gauge".toList
    description := none
    gcpOptions := some ⟨some "GAUGE".toList, some "INT64".toList, unit, none, none⟩
    dimensions := none } 0 false []

def fiveInt64 : TypedValue Number := ⟨some "5".toList, none, none, none⟩

theorem int64_string_is_repeated :
    ¬ ∀ (L : FloatLibrary) (percentMetric metric : Metric),
      percentMetric.unit = some unit10To2Percent → metric.unit ≠ some unit10To2Percent →
        ∀ (value : TypedValue Number) (typedValueKey : Text),
          (∀ s, value.int64Value = some s → ∃ n : ℤ, s = Text.ofInt n) →
            IsHundredTimes L typedValueKey
                (extractValue (.binary L) value typedValueKey percentMetric)
                (extractValue (.binary L) value typedValueKey metric) ∧
              MergesUnscaled L percentMetric := by
  intro hclaim
  have hint64 : ∀ s, fiveInt64.int64Value = some s → ∃ n : ℤ, s = Text.ofInt n := by
    rintro s hs
    cases hs
    exact ⟨5, by decide +kernel⟩
  have hscales := (hclaim .wholeOrFraction (utilizationMetric (some unit10To2Percent))
    (utilizationMetric none) rfl (by decide +kernel) fiveInt64 "int64Value".toList hint64).1
  rw [isHundredTimes_int64Value (n := 5) .wholeOrFraction rfl (by decide +kernel) fiveInt64
    (by decide +kernel)] at hscales
  exact absurd hscales (by decide)

def fourDouble : TypedValue Number := ⟨none, some (.float (.finite 4)), none, none⟩

theorem percent_scaling_of_double :
    IsHundredTimes .wholeOrFraction "doubleValue".toList
        (extractValue (.binary .wholeOrFraction) fourDouble "doubleValue".toList
          (utilizationMetric (some unit10To2Percent)))
        (extractValue (.binary .wholeOrFraction) fourDouble "doubleValue".toList
          (utilizationMetric none)) ∧
      MergesUnscaled .wholeOrFraction (utilizationMetric (some unit10To2Percent)) := by
  apply (percent_scaling_iff .wholeOrFraction rfl (by decide +kernel) _ _ _).mpr
  · refine ⟨fun hkey => absurd hkey (by decide +kernel), ?_,
      fun hkey => absurd hkey (by decide +kernel)⟩
    rintro - x hx
    cases hx
    exact ⟨by decide +kernel, by decide +kernel⟩
  · intro s hs
    cases hs

end GcpMonitor.Metrics
