import GcpMonitor.Library.ExceptList
import GcpMonitor.Library.OrderedDict
import GcpMonitor.Python.Arithmetic
import Mathlib.Algebra.Order.Ring.Unbundled.Rat
import Mathlib.Order.MinMax

namespace GcpMonitor.Metrics

open Python

variable {N M : Type} (A : Arithmetic N)

def unit10To2Percent : Text := "10^2.%".toList

def gaugeLine (distMin distMax : N) (distCount : ℤ) (distSum : N) (distUnit : Option Text) :
    Text :=
  let (distMin, distMax, distSum) :=
    if distUnit = some unit10To2Percent then
      (A.hundredTimes distMin, A.hundredTimes distMax, A.hundredTimes distSum)
    else (distMin, distMax, distSum)
  "min=".toList ++ A.str distMin ++ ",max=".toList ++ A.str distMax ++ ",count=".toList ++
    Text.ofInt distCount ++ ",sum=".toList ++ A.str distSum

def splitKey (item : Text) : Except PyError (Text × Text) :=
  match item.dropWhile (fun c => c ≠ '=') with
  | [] => .error (.valueError none)
  | _ :: itemValue => .ok (item.takeWhile (fun c => c ≠ '='), itemValue)

def parseDistributionValue : PyValue → Except PyError (OrderedDict Text Text)
  | .number _ => .error .attributeError
  | .text value =>
    (value.splitOn ',').foldlM (fun result item => do
      let (key, itemValue) ← splitKey item
      return result.set key itemValue) OrderedDict.empty

def item (values : OrderedDict Text Text) (key : String) : Except PyError Text :=
  (values.get key.toList).elim (.error .keyError) .ok

def intOf (s : Text) : Except PyError ℤ := (Text.int s).elim (.error (.valueError none)) .ok

def floatOf (s : Text) : Except PyError N := (A.float s).elim (.error (.valueError none)) .ok

def mergeDistributionValues (first second : PyValue) : Except PyError PyValue := do
  let firstValues ← parseDistributionValue first
  let secondValues ← parseDistributionValue second
  let distMin := A.least (← floatOf A (← item firstValues "min"))
    (← floatOf A (← item secondValues "min"))
  let distMax := A.greatest (← floatOf A (← item firstValues "max"))
    (← floatOf A (← item secondValues "max"))
  let distCount := (← intOf (← item firstValues "count")) + (← intOf (← item secondValues "count"))
  let distSum ← A.add (← floatOf A (← item firstValues "sum"))
    (← floatOf A (← item secondValues "sum"))
  return .text (gaugeLine A distMin distMax distCount distSum none)

structure Summary (N : Type) where
  min : N
  max : N
  count : ℤ
  sum : N

abbrev Distribution := Summary ℚ

def readSummary (read : Text → Option M) (value : PyValue) : Except PyError (Summary M) := do
  let values ← parseDistributionValue value
  let number := fun text => (read text).elim (.error (.valueError none)) .ok
  return {
    min := ← number (← item values "min")
    max := ← number (← item values "max")
    count := ← intOf (← item values "count")
    sum := ← number (← item values "sum") }

def scale (unit : Option Text) (x : N) : N :=
  if unit = some unit10To2Percent then A.hundredTimes x else x

def ReadsDistribution (F : FloatText) (value : PyValue) (d : Distribution) : Prop :=
  ∃ (distMin distMax distSum : PyNumber) (distUnit : Option Text),
    value = .text (gaugeLine (.exact F) distMin distMax d.count distSum distUnit) ∧
      d.min = (scale (.exact F) distUnit distMin).toRat ∧
      d.max = (scale (.exact F) distUnit distMax).toRat ∧
      d.sum = (scale (.exact F) distUnit distSum).toRat

def gaugeItems (distMin distMax : N) (distCount : ℤ) (distSum : N) : List Text :=
  ["min".toList ++ '=' :: A.str distMin, "max".toList ++ '=' :: A.str distMax,
    "count".toList ++ '=' :: Text.ofInt distCount, "sum".toList ++ '=' :: A.str distSum]

theorem gaugeLine_eq (distMin distMax : N) (distCount : ℤ) (distSum : N)
    (distUnit : Option Text) :
    gaugeLine A distMin distMax distCount distSum distUnit =
      [','].intercalate (gaugeItems A (scale A distUnit distMin) (scale A distUnit distMax)
        distCount (scale A distUnit distSum)) := by
  have hmin : "min=".toList = "min".toList ++ ['='] := rfl
  have hmax : ",max=".toList = ',' :: ("max".toList ++ ['=']) := rfl
  have hcount : ",count=".toList = ',' :: ("count".toList ++ ['=']) := rfl
  have hsum : ",sum=".toList = ',' :: ("sum".toList ++ ['=']) := rfl
  rw [gaugeItems, List.intercalate_cons_cons, List.intercalate_cons_cons,
    List.intercalate_cons_cons, List.intercalate_singleton]
  unfold gaugeLine scale
  generalize unit10To2Percent = percent
  by_cases h : distUnit = some percent
  all_goals
    simp only [h, if_true, if_false, hmin, hmax, hcount, hsum, List.append_assoc,
      List.cons_append, List.nil_append]

theorem comma_not_mem_ofInt (n : ℤ) : ',' ∉ Text.ofInt n := by
  intro h
  rcases Text.mem_ofInt h with h | h <;> exact absurd h (by decide)

theorem splitOn_gaugeLine (distMin distMax : N) (distCount : ℤ) (distSum : N)
    (distUnit : Option Text) :
    (gaugeLine A distMin distMax distCount distSum distUnit).splitOn ',' =
      gaugeItems A (scale A distUnit distMin) (scale A distUnit distMax) distCount
        (scale A distUnit distSum) := by
  rw [gaugeLine_eq]
  apply List.splitOn_intercalate
  · simp [gaugeItems, A.comma_not_mem_str, comma_not_mem_ofInt]
  · exact List.cons_ne_nil _ _

theorem splitKey_append {key : Text} (value : Text) (h : '=' ∉ key) :
    splitKey (key ++ '=' :: value) = .ok (key, value) := by
  have hkey : ∀ c ∈ key, (fun c => decide (c ≠ '=')) c = true := by
    intro c hc
    have hne : c ≠ '=' := by
      rintro rfl
      exact h hc
    simpa using hne
  have hdrop : (key ++ '=' :: value).dropWhile (fun c => c ≠ '=') = '=' :: value :=
    List.dropWhile_append_of_pos hkey
  have htake : (key ++ '=' :: value).takeWhile (fun c => c ≠ '=') = key := by
    rw [List.takeWhile_append_of_pos hkey]
    exact List.append_nil key
  rw [splitKey, hdrop, htake]

def distributionItems (distMin distMax : N) (distCount : ℤ) (distSum : N) :
    OrderedDict Text Text :=
  (((OrderedDict.empty.set "min".toList (A.str distMin)).set "max".toList (A.str distMax)).set
    "count".toList (Text.ofInt distCount)).set "sum".toList (A.str distSum)

theorem parseDistributionValue_gaugeLine (distMin distMax : N) (distCount : ℤ) (distSum : N)
    (distUnit : Option Text) :
    parseDistributionValue (.text (gaugeLine A distMin distMax distCount distSum distUnit)) =
      .ok (distributionItems A (scale A distUnit distMin) (scale A distUnit distMax) distCount
        (scale A distUnit distSum)) := by
  rw [parseDistributionValue, splitOn_gaugeLine, gaugeItems]
  simp only [List.foldlM_cons, List.foldlM_nil]
  rw [splitKey_append _ (by decide), splitKey_append _ (by decide), splitKey_append _ (by decide),
    splitKey_append _ (by decide)]
  rfl

section Items

variable (distMin distMax : N) (distCount : ℤ) (distSum : N)

theorem item_min : item (distributionItems A distMin distMax distCount distSum) "min" =
    .ok (A.str distMin) := by
  rw [item, distributionItems, OrderedDict.get_set_of_ne _ _ (by decide),
    OrderedDict.get_set_of_ne _ _ (by decide), OrderedDict.get_set_of_ne _ _ (by decide),
    OrderedDict.get_set_self]
  rfl

theorem item_max : item (distributionItems A distMin distMax distCount distSum) "max" =
    .ok (A.str distMax) := by
  rw [item, distributionItems, OrderedDict.get_set_of_ne _ _ (by decide),
    OrderedDict.get_set_of_ne _ _ (by decide), OrderedDict.get_set_self]
  rfl

theorem item_count : item (distributionItems A distMin distMax distCount distSum) "count" =
    .ok (Text.ofInt distCount) := by
  rw [item, distributionItems, OrderedDict.get_set_of_ne _ _ (by decide),
    OrderedDict.get_set_self]
  rfl

theorem item_sum : item (distributionItems A distMin distMax distCount distSum) "sum" =
    .ok (A.str distSum) := by
  rw [item, distributionItems, OrderedDict.get_set_self]
  rfl

end Items

theorem floatOf_str (x : N) : floatOf A (A.str x) = .ok (A.asFloat x) := by
  rw [floatOf, A.float_str]
  rfl

theorem intOf_ofInt (n : ℤ) : intOf (Text.ofInt n) = .ok n := by
  rw [intOf, Text.int_ofInt]
  rfl

theorem mergeDistributionValues_gaugeLine (a b s a' b' s' : N) (c c' : ℤ)
    (unit unit' : Option Text) :
    mergeDistributionValues A (.text (gaugeLine A a b c s unit))
        (.text (gaugeLine A a' b' c' s' unit')) =
      (A.add (A.asFloat (scale A unit s)) (A.asFloat (scale A unit' s'))).map (fun distSum =>
        .text (gaugeLine A
          (A.least (A.asFloat (scale A unit a)) (A.asFloat (scale A unit' a')))
          (A.greatest (A.asFloat (scale A unit b)) (A.asFloat (scale A unit' b'))) (c + c')
          distSum none)) := by
  rw [mergeDistributionValues, parseDistributionValue_gaugeLine, parseDistributionValue_gaugeLine]
  simp only [bind, Except.bind, item_min, item_max, item_count, item_sum, floatOf_str, intOf_ofInt]
  cases A.add (A.asFloat (scale A unit s)) (A.asFloat (scale A unit' s')) <;> rfl

theorem readSummary_gaugeLine {read : Text → Option M} {f : N → M}
    (hread : ∀ x, read (A.str x) = some (f x)) (distMin distMax : N) (distCount : ℤ) (distSum : N)
    (distUnit : Option Text) :
    readSummary read (.text (gaugeLine A distMin distMax distCount distSum distUnit)) =
      .ok ⟨f (scale A distUnit distMin), f (scale A distUnit distMax), distCount,
        f (scale A distUnit distSum)⟩ := by
  rw [readSummary, parseDistributionValue_gaugeLine]
  simp only [bind, Except.bind, item_min, item_max, item_count, item_sum, intOf_ofInt, hread,
    Option.elim]
  rfl

theorem scale_none (x : N) : scale A none x = x := if_neg (Option.some_ne_none _).symm

theorem ReadsDistribution.merge {F : FloatText} {v w : PyValue} {d e : Distribution}
    (hv : ReadsDistribution F v d) (hw : ReadsDistribution F w e) :
    ∃ u, mergeDistributionValues (.exact F) v w = .ok u ∧
      ReadsDistribution F u
        ⟨min d.min e.min, max d.max e.max, d.count + e.count, d.sum + e.sum⟩ := by
  obtain ⟨a, b, s, unit, rfl, hmin, hmax, hsum⟩ := hv
  obtain ⟨a', b', s', unit', rfl, hmin', hmax', hsum'⟩ := hw
  refine ⟨_, mergeDistributionValues_gaugeLine _ a b s a' b' s' d.count e.count unit unit', ?_⟩
  refine ⟨_, _, _, none, rfl, ?_, ?_, ?_⟩
  · rw [scale_none, Arithmetic.toRat_least, hmin, hmin']
    rfl
  · rw [scale_none, Arithmetic.toRat_greatest, hmax, hmax']
    rfl
  · rw [scale_none, hsum, hsum']
    rfl

end GcpMonitor.Metrics
