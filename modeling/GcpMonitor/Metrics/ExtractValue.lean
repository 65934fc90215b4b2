import GcpMonitor.Library.ExceptList
import GcpMonitor.Metrics.DistributionLine
import GcpMonitor.Metrics.Service

namespace GcpMonitor.Metrics

open Python ExceptList

variable {N : Type}

structure ExponentialBuckets (N : Type) where
  numFiniteBuckets : Option ℤ
  growthFactor : Option N
  scale : Option N

structure LinearBuckets (N : Type) where
  numFiniteBuckets : Option ℤ
  offset : Option N
  width : Option N

structure ExplicitBuckets (N : Type) where
  bounds : Option (List N)

structure BucketOptions (N : Type) where
  exponentialBuckets : Option (ExponentialBuckets N)
  linearBuckets : Option (LinearBuckets N)
  explicitBuckets : Option (ExplicitBuckets N)

structure DistributionValue (N : Type) where
  count : Option Text
  mean : Option N
  bucketOptions : Option (BucketOptions N)
  bucketCounts : Option (List Text)

/-- `value` of a point; the numbers of `int64Value` come as decimal strings. -/
structure TypedValue (N : Type) where
  int64Value : Option Text
  doubleValue : Option N
  boolValue : Option Bool
  distributionValue : Option (DistributionValue N)

inductive ExtractedValue (N : Type) where
  | text (s : Text)
  | number (x : N)
  | bool (b : Bool)
  deriving DecidableEq

def field {α : Type} (value : Option α) : Except PyError α := value.elim (.error .keyError) .ok

def itemAt {α : Type} (items : List α) (i : ℤ) : Except PyError α :=
  let i := if i < 0 then items.length + i else i
  if 0 ≤ i then (items[i.toNat]?).elim (.error .indexError) .ok else .error .indexError

theorem itemAt_natCast {α : Type} {items : List α} {i : ℕ} (hlt : i < items.length) :
    itemAt items i = .ok items[i] := by
  have hpos : ¬ (i : ℤ) < 0 := by omega
  rw [itemAt]
  simp only [if_neg hpos, if_pos (Int.natCast_nonneg i), Int.toNat_natCast,
    List.getElem?_eq_getElem hlt]
  rfl

theorem itemAt_neg_one {α : Type} {items : List α} (hne : items ≠ []) :
    itemAt items (-1) = .ok (items.getLast hne) := by
  have hlength := List.length_pos_of_ne_nil hne
  have hlast : (items.length : ℤ) + -1 = ((items.length - 1 : ℕ) : ℤ) := by omega
  have hlt : items.length - 1 < items.length := by omega
  have hneg : (-1 : ℤ) < 0 := by decide
  rw [List.getLast_eq_getElem, itemAt]
  simp only [if_pos hneg, hlast, if_pos (Int.natCast_nonneg _), Int.toNat_natCast,
    List.getElem?_eq_getElem hlt]
  rfl

variable (A : Arithmetic N)

def exponentialRange (buckets : ExponentialBuckets N) (bucketCountsLength minBucket maxBucket : ℤ)
    (range : N × N) : Except PyError (N × N) := do
  let numFiniteBuckets ← field buckets.numFiniteBuckets
  if bucketCountsLength < numFiniteBuckets ∧ minBucket ≠ 0 then
    let growthFactor ← field buckets.growthFactor
    let scale ← field buckets.scale
    let distMin ← A.mul scale (← A.pow growthFactor (minBucket - 1))
    let distMax ← A.mul scale (← A.pow growthFactor maxBucket)
    return (distMin, distMax)
  else return range

def linearRange (buckets : LinearBuckets N) (bucketCountsLength minBucket maxBucket : ℤ)
    (range : N × N) : Except PyError (N × N) := do
  let numFiniteBuckets ← field buckets.numFiniteBuckets
  if bucketCountsLength < numFiniteBuckets ∧ minBucket ≠ 0 then
    match buckets.offset, buckets.width with
    | some offset, some width =>
      let distMin ← A.add offset (← A.mul width (A.ofInt (minBucket - 1)))
      let distMax ← A.add offset (← A.mul width (A.ofInt maxBucket))
      return (distMin, distMax)
    | _, _ => return range
  else return range

def explicitRange (buckets : ExplicitBuckets N) (minBucket maxBucket : ℤ) (range : N × N) :
    Except PyError (N × N) := do
  let bounds ← field buckets.bounds
  if minBucket ≠ 0 ∧ bounds ≠ [] then
    let distMin ← if minBucket - 1 < bounds.length then itemAt bounds (minBucket - 1)
      else itemAt bounds (-1)
    let distMax ← if maxBucket < bounds.length then itemAt bounds maxBucket
      else itemAt bounds (-1)
    return (distMin, distMax)
  else return range

def bucketRange (options : BucketOptions N) (bucketCountsLength minBucket maxBucket : ℤ)
    (range : N × N) : Except PyError (N × N) :=
  match options.exponentialBuckets, options.linearBuckets, options.explicitBuckets with
  | some buckets, _, _ => exponentialRange A buckets bucketCountsLength minBucket maxBucket range
  | none, some buckets, _ => linearRange A buckets bucketCountsLength minBucket maxBucket range
  | none, none, some buckets => explicitRange buckets minBucket maxBucket range
  | none, none, none => return range

def minBucket (bucketCounts : List ℤ) : ℤ :=
  match bucketCounts.findIdx? (fun bucketCount => 0 < bucketCount) with
  | some index => index
  | none => bucketCounts.length - 1

/-- What `extract_value` makes of a distribution before it is printed, none for an empty one. -/
def summarize (value : DistributionValue N) : Except PyError (Option (Summary N)) := do
  let count ← intOf (value.count.getD "0".toList)
  if count = 0 then return none
  else
    let mean := value.mean.getD (A.ofInt 0)
    let sum ← A.mul mean (A.ofInt count)
    if count = 1 ∨ count = 2 then return some ⟨mean, mean, count, sum⟩
    else
      let bucketOptions ← field value.bucketOptions
      let bucketCounts ← (← field value.bucketCounts).mapM intOf
      let (distMin, distMax) ← bucketRange A bucketOptions bucketCounts.length
        (minBucket bucketCounts) (bucketCounts.length - 1) (mean, mean)
      return some ⟨distMin, distMax, count, sum⟩

def extractDistribution (value : DistributionValue N) (unit : Option Text) :
    Except PyError (Option Text) := do
  return (← summarize A value).map (fun d => gaugeLine A d.min d.max d.count d.sum unit)

def TypedValue.item (value : TypedValue N) (typedValueKey : Text) :
    Except PyError (ExtractedValue N) :=
  if typedValueKey = "int64Value".toList then (field value.int64Value).map .text
  else if typedValueKey = "doubleValue".toList then (field value.doubleValue).map .number
  else if typedValueKey = "boolValue".toList then (field value.boolValue).map .bool
  else .error .keyError

def ExtractedValue.hundredTimes : ExtractedValue N → ExtractedValue N
  | .text s => .text (List.replicate 100 s).flatten
  | .number x => .number (A.hundredTimes x)
  | .bool b => .number (A.ofInt (if b then 100 else 0))

def extractValue (value : TypedValue N) (typedValueKey : Text) (metric : Metric) :
    Except PyError (Option (ExtractedValue N)) :=
  if typedValueKey = "distributionValue".toList then do
    let value ← field value.distributionValue
    return (← extractDistribution A value metric.unit).map .text
  else do
    let value ← value.item typedValueKey
    if metric.unit = some unit10To2Percent then return some (value.hundredTimes A)
    else return some value

section Exact

variable (F : FloatText)

def readDistribution (value : PyValue) : Except PyError Distribution := readSummary F.parse value

theorem readDistribution_gaugeLine (distMin distMax : PyNumber) (distCount : ℤ)
    (distSum : PyNumber) (distUnit : Option Text) :
    readDistribution F (.text (gaugeLine (.exact F) distMin distMax distCount distSum distUnit)) =
      .ok ⟨(scale (.exact F) distUnit distMin).toRat, (scale (.exact F) distUnit distMax).toRat,
        distCount, (scale (.exact F) distUnit distSum).toRat⟩ :=
  readSummary_gaugeLine (.exact F) (PyNumber.parse_str F) distMin distMax distCount distSum distUnit

def percentFactor (unit : Option Text) : ℤ := if unit = some unit10To2Percent then 100 else 1

theorem percentFactor_pos (unit : Option Text) : 0 < percentFactor unit := by
  unfold percentFactor
  split_ifs
  · exact Int.ofNat_succ_pos 99
  · exact Int.one_pos

theorem toRat_scale (unit : Option Text) (x : PyNumber) :
    (scale (.exact F) unit x).toRat = percentFactor unit * x.toRat := by
  unfold scale percentFactor
  split_ifs
  · exact PyNumber.toRat_mul 100 x
  · rw [Int.cast_one, one_mul]

end Exact

end GcpMonitor.Metrics
