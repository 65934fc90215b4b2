import GcpMonitor.Library.Histogram
import GcpMonitor.Metrics.ExtractValue
import Mathlib.Algebra.Order.Ring.Rat
import Mathlib.Tactic.Linarith

namespace GcpMonitor.Metrics

open Python ExceptList Histogram

inductive Bucketing where
  | explicit (bounds : List PyNumber)
  | linear (numFiniteBuckets : ℕ) (offset width : PyNumber)
  | exponential (numFiniteBuckets : ℕ) (growthFactor scale : PyNumber)

namespace Bucketing

def options : Bucketing → BucketOptions PyNumber
  | .explicit bounds => ⟨none, none, some ⟨some bounds⟩⟩
  | .linear numFiniteBuckets offset width =>
    ⟨none, some ⟨some numFiniteBuckets, some offset, some width⟩, none⟩
  | .exponential numFiniteBuckets growthFactor scale =>
    ⟨some ⟨some numFiniteBuckets, some growthFactor, some scale⟩, none, none⟩

def boundaries : Bucketing → List ℚ
  | .explicit bounds => bounds.map PyNumber.toRat
  | .linear numFiniteBuckets offset width =>
    (List.range (numFiniteBuckets + 1)).map (fun i : ℕ => offset.toRat + width.toRat * (i : ℚ))
  | .exponential numFiniteBuckets growthFactor scale =>
    (List.range (numFiniteBuckets + 1)).map (fun i : ℕ => scale.toRat * growthFactor.toRat ^ i)

def WellFormed : Bucketing → Prop
  | .explicit bounds => (bounds.map PyNumber.toRat).Pairwise (· < ·)
  | .linear _ _ width => 0 < width.toRat
  | .exponential _ growthFactor scale => 0 < scale.toRat ∧ 1 < growthFactor.toRat

end Bucketing

/-- The point that stands for the values: a mean of zero may be left out, and so may the zeros
after the last bucket that is not empty. -/
structure PointOf (values : List ℚ) (bucketing : Bucketing)
    (point : DistributionValue PyNumber) : Prop where
  count : point.count.bind Text.int = some (values.length : ℤ)
  mean : (point.mean.getD (.int 0)).toRat = mean values
  bucketOptions : point.bucketOptions = some bucketing.options
  bucketCounts : ∃ texts counts, point.bucketCounts = some texts ∧
    List.Forall₂ (fun text (count : ℕ) => Text.int text = some (count : ℤ)) texts counts ∧
      Lists bucketing.boundaries values counts

/-- The values reach beyond the last explicit bound so far that their mean does, and none of them
is below the first bound. -/
def MeanOverflows (values : List ℚ) : Bucketing → Prop
  | .explicit bounds => 3 ≤ values.length ∧ (∃ first, bounds.head? = some first ∧
      ∀ value ∈ values, first.toRat ≤ value) ∧
    ∃ last, bounds.getLast? = some last ∧ last.toRat < mean values
  | _ => False

theorem Bucketing.WellFormed.sorted {bucketing : Bucketing} (h : bucketing.WellFormed) :
    bucketing.boundaries.Pairwise (· < ·) := by
  cases bucketing with
  | explicit bounds => exact h
  | linear numFiniteBuckets offset width =>
    have hwidth : 0 < width.toRat := h
    rw [boundaries, List.pairwise_map]
    refine List.pairwise_lt_range.imp ?_
    intro i j hij
    have hcast : (i : ℚ) < (j : ℚ) := Nat.cast_lt.mpr hij
    have hmul := mul_lt_mul_of_pos_left hcast hwidth
    linarith
  | exponential numFiniteBuckets growthFactor scale =>
    obtain ⟨hscale, hgrowth⟩ : 0 < scale.toRat ∧ 1 < growthFactor.toRat := h
    rw [boundaries, List.pairwise_map]
    refine List.pairwise_lt_range.imp ?_
    intro i j hij
    exact mul_lt_mul_of_pos_left (pow_lt_pow_right₀ hgrowth hij) hscale

theorem mapM_intOf_eq_ok {texts : List Text} {counts : List ℕ}
    (h : List.Forall₂ (fun text (count : ℕ) => Text.int text = some (count : ℤ)) texts counts) :
    texts.mapM intOf = .ok (counts.map (fun count : ℕ => (count : ℤ))) := by
  rw [mapM_eq_ok_iff, List.forall₂_map_right_iff]
  refine h.imp ?_
  intro text count hint
  rw [intOf, hint]
  rfl

theorem minBucket_eq {counts : List ℕ} (h : firstBucket counts < counts.length) :
    minBucket (counts.map (fun count : ℕ => (count : ℤ))) = firstBucket counts := by
  have hfind : (counts.map (fun count : ℕ => (count : ℤ))).findIdx? (fun count => 0 < count) =
      some (firstBucket counts) := by
    rw [List.findIdx?_map]
    have hcongr : ((fun count : ℤ => decide (0 < count)) ∘ fun count : ℕ => (count : ℤ)) =
        fun count : ℕ => decide (0 < count) := by
      funext count
      simp
    rw [hcongr]
    exact List.findIdx?_eq_some_iff_findIdx_eq.mpr ⟨h, rfl⟩
  rw [minBucket, hfind]

section Range

variable (F : FloatText) {values : List ℚ} {counts : List ℕ}

theorem firstBucket_lt_length {boundaries : List ℚ} (hcounts : Lists boundaries values counts)
    (hne : values ≠ []) : firstBucket counts < counts.length := by
  obtain ⟨value, rest, rfl⟩ := List.exists_cons_of_ne_nil hne
  exact (hcounts.firstBucket_le List.mem_cons_self).trans_lt
    (hcounts.bucketOf_lt_length List.mem_cons_self)

theorem firstBound_le_mean {boundaries : List ℚ} (hsorted : boundaries.Pairwise (· < ·))
    (hcounts : Lists boundaries values counts) (hne : values ≠ [])
    (hfirst : firstBucket counts ≠ 0) :
    ∃ hlt : firstBucket counts - 1 < boundaries.length,
      boundaries[firstBucket counts - 1] ≤ mean values := by
  obtain ⟨value, hvalue, -⟩ := hcounts.exists_firstBucket (firstBucket_lt_length hcounts hne)
  obtain ⟨hlt, -⟩ := hcounts.firstBound_le hvalue hsorted hfirst
  refine ⟨hlt, le_mean hne ?_⟩
  intro value hvalue
  exact (hcounts.firstBound_le hvalue hsorted hfirst).2

theorem mean_le_lastBound {boundaries : List ℚ} (hsorted : boundaries.Pairwise (· < ·))
    (hcounts : Lists boundaries values counts) (hne : values ≠ [])
    (hlast : counts.length - 1 < boundaries.length) :
    mean values ≤ boundaries[counts.length - 1] := by
  apply mean_le hne
  intro value hvalue
  exact (hcounts.lt_lastBound hvalue hsorted hlast).le

structure RangeAround (values : List ℚ) (bucketing : Bucketing)
    (result : Except PyError (PyNumber × PyNumber)) : Prop where
  range : ∃ distMin distMax, result = .ok (distMin, distMax) ∧ distMin.toRat ≤ mean values ∧
    (3 ≤ values.length →
      (mean values ≤ distMax.toRat ↔ ¬ MeanOverflows values bucketing))

theorem rangeAround_mean {bucketing : Bucketing} {distMean : PyNumber}
    (hmean : distMean.toRat = mean values) (hfits : ¬ MeanOverflows values bucketing) :
    RangeAround values bucketing (.ok (distMean, distMean)) :=
  ⟨distMean, distMean, rfl, hmean.le, fun _ => iff_of_true hmean.ge hfits⟩

theorem rangeAround_boundaries {bucketing : Bucketing} {numFiniteBuckets : ℕ} {bound : ℕ → ℚ}
    (hboundaries : bucketing.boundaries = (List.range (numFiniteBuckets + 1)).map bound)
    (hwf : bucketing.WellFormed) (hcounts : Lists bucketing.boundaries values counts)
    (hne : values ≠ []) (hfits : ¬ MeanOverflows values bucketing)
    (hfirst : firstBucket counts ≠ 0) (hfinite : counts.length < numFiniteBuckets)
    {distMin distMax : PyNumber} (hdistMin : distMin.toRat = bound (firstBucket counts - 1))
    (hdistMax : distMax.toRat = bound (counts.length - 1)) :
    RangeAround values bucketing (.ok (distMin, distMax)) := by
  have hsorted := hwf.sorted
  rw [hboundaries] at hcounts hsorted
  have hlast : counts.length - 1 < ((List.range (numFiniteBuckets + 1)).map bound).length := by
    rw [List.length_map, List.length_range]
    omega
  obtain ⟨hlt, hmin⟩ := firstBound_le_mean hsorted hcounts hne hfirst
  have hmax := mean_le_lastBound hsorted hcounts hne hlast
  simp only [List.getElem_map, List.getElem_range] at hmin hmax
  refine ⟨distMin, distMax, rfl, ?_, fun _ => iff_of_true ?_ hfits⟩
  · rw [hdistMin]
    exact hmin
  · rw [hdistMax]
    exact hmax

theorem rangeAround_exponential (numFiniteBuckets : ℕ) (growthFactor scale distMean : PyNumber)
    (hwf : (Bucketing.exponential numFiniteBuckets growthFactor scale).WellFormed)
    (hcounts : Lists (Bucketing.exponential numFiniteBuckets growthFactor scale).boundaries values
      counts) (hne : values ≠ []) (hmean : distMean.toRat = mean values) :
    RangeAround values (.exponential numFiniteBuckets growthFactor scale)
      (exponentialRange (.exact F) ⟨some numFiniteBuckets, some growthFactor, some scale⟩
        counts.length (firstBucket counts) (counts.length - 1) (distMean, distMean)) := by
  have hrange : exponentialRange (.exact F) ⟨some numFiniteBuckets, some growthFactor, some scale⟩
      counts.length (firstBucket counts) (counts.length - 1) (distMean, distMean) =
        if (counts.length : ℤ) < numFiniteBuckets ∧ (firstBucket counts : ℤ) ≠ 0 then
          growthFactor.pow (firstBucket counts - 1) >>= fun low =>
            growthFactor.pow (counts.length - 1) >>= fun high =>
              .ok (scale.times low, scale.times high)
        else .ok (distMean, distMean) := rfl
  have hlength := firstBucket_lt_length hcounts hne
  rw [hrange]
  split_ifs with hguard
  · have hlow : (firstBucket counts : ℤ) - 1 = ((firstBucket counts - 1 : ℕ) : ℤ) := by omega
    have hhigh : (counts.length : ℤ) - 1 = ((counts.length - 1 : ℕ) : ℤ) := by omega
    obtain ⟨low, hlowPow, hlowRat⟩ := growthFactor.pow_natCast (firstBucket counts - 1)
    obtain ⟨high, hhighPow, hhighRat⟩ := growthFactor.pow_natCast (counts.length - 1)
    rw [hlow, hhigh, hlowPow, hhighPow]
    apply rangeAround_boundaries rfl hwf hcounts hne id (by omega) (by omega)
    · rw [PyNumber.toRat_times, hlowRat]
    · rw [PyNumber.toRat_times, hhighRat]
  · exact rangeAround_mean hmean id

theorem rangeAround_linear (numFiniteBuckets : ℕ) (offset width distMean : PyNumber)
    (hwf : (Bucketing.linear numFiniteBuckets offset width).WellFormed)
    (hcounts : Lists (Bucketing.linear numFiniteBuckets offset width).boundaries values counts)
    (hne : values ≠ []) (hmean : distMean.toRat = mean values) :
    RangeAround values (.linear numFiniteBuckets offset width)
      (linearRange (.exact F) ⟨some numFiniteBuckets, some offset, some width⟩ counts.length
        (firstBucket counts) (counts.length - 1) (distMean, distMean)) := by
  have hrange : linearRange (.exact F) ⟨some numFiniteBuckets, some offset, some width⟩
      counts.length (firstBucket counts) (counts.length - 1) (distMean, distMean) =
        if (counts.length : ℤ) < numFiniteBuckets ∧ (firstBucket counts : ℤ) ≠ 0 then
          .ok (offset.add (width.times (.int (firstBucket counts - 1))),
            offset.add (width.times (.int (counts.length - 1))))
        else .ok (distMean, distMean) := rfl
  have hlength := firstBucket_lt_length hcounts hne
  rw [hrange]
  split_ifs with hguard
  · have hlow : (firstBucket counts : ℤ) - 1 = ((firstBucket counts - 1 : ℕ) : ℤ) := by omega
    have hhigh : (counts.length : ℤ) - 1 = ((counts.length - 1 : ℕ) : ℤ) := by omega
    rw [hlow, hhigh]
    apply rangeAround_boundaries rfl hwf hcounts hne id (by omega) (by omega)
    · rw [PyNumber.toRat_add, PyNumber.toRat_times, PyNumber.toRat, Int.cast_natCast]
    · rw [PyNumber.toRat_add, PyNumber.toRat_times, PyNumber.toRat, Int.cast_natCast]
  · exact rangeAround_mean hmean id

theorem firstBound_le {bounds : List PyNumber} (hwf : (Bucketing.explicit bounds).WellFormed)
    (hcounts : Lists (Bucketing.explicit bounds).boundaries values counts)
    (hfirst : firstBucket counts ≠ 0) {first : PyNumber} (hhead : bounds.head? = some first) :
    ∀ value ∈ values, first.toRat ≤ value := by
  intro value hvalue
  obtain ⟨rest, rfl⟩ := List.head?_eq_some_iff.mp hhead
  have hpos : 0 < (Bucketing.explicit (first :: rest)).boundaries.length := Nat.zero_lt_succ _
  have hle := hcounts.firstBucket_le hvalue
  exact (lt_bucketOf_iff hwf.sorted hpos).mp (by omega)

theorem meanOverflows_iff {bounds : List PyNumber} (hwf : (Bucketing.explicit bounds).WellFormed)
    (hcounts : Lists (Bucketing.explicit bounds).boundaries values counts)
    (hfirst : firstBucket counts ≠ 0) (hne : bounds ≠ []) :
    MeanOverflows values (.explicit bounds) ↔
      3 ≤ values.length ∧ (bounds.getLast hne).toRat < mean values := by
  have hlast := List.getLast?_eq_some_getLast hne
  constructor
  · rintro ⟨hlength, -, last, hgetLast, hlt⟩
    rw [hlast, Option.some.injEq] at hgetLast
    rw [hgetLast]
    exact ⟨hlength, hlt⟩
  · rintro ⟨hlength, hlt⟩
    have hhead := List.head?_eq_some_head hne
    exact ⟨hlength, ⟨_, hhead, firstBound_le hwf hcounts hfirst hhead⟩, _, hlast, hlt⟩

theorem not_meanOverflows_of_firstBucket {bounds : List PyNumber}
    (hwf : (Bucketing.explicit bounds).WellFormed)
    (hcounts : Lists (Bucketing.explicit bounds).boundaries values counts) (hvalues : values ≠ [])
    (hfirst : ¬ ((firstBucket counts : ℤ) ≠ 0 ∧ bounds ≠ [])) :
    ¬ MeanOverflows values (.explicit bounds) := by
  rintro ⟨-, ⟨first, hhead, hle⟩, -⟩
  obtain ⟨rest, rfl⟩ := List.head?_eq_some_iff.mp hhead
  have hzero : firstBucket counts = 0 := by
    by_contra hfirstBucket
    exact hfirst ⟨Nat.cast_ne_zero.mpr hfirstBucket, List.cons_ne_nil _ _⟩
  obtain ⟨value, hvalue, hbucket⟩ :=
    hcounts.exists_firstBucket (firstBucket_lt_length hcounts hvalues)
  have hpos : 0 < (Bucketing.explicit (first :: rest)).boundaries.length := Nat.zero_lt_succ _
  have hlt := (lt_bucketOf_iff hwf.sorted hpos).mpr (hle value hvalue)
  omega

theorem toRat_le_getLast {bounds : List PyNumber} (hwf : (Bucketing.explicit bounds).WellFormed)
    {i : ℕ} (hlt : i < bounds.length) (hne : bounds ≠ []) :
    bounds[i].toRat ≤ (bounds.getLast hne).toRat := by
  rw [List.getLast_eq_getElem]
  rcases Nat.lt_or_eq_of_le (Nat.le_sub_one_of_lt hlt) with hbefore | rfl
  · have hsorted := List.pairwise_iff_getElem.mp hwf.sorted i (bounds.length - 1)
      (by simpa [Bucketing.boundaries] using hlt)
      (by simpa [Bucketing.boundaries] using Nat.sub_one_lt_of_lt hlt) hbefore
    simp only [Bucketing.boundaries, List.getElem_map] at hsorted
    exact hsorted.le
  · exact le_rfl

theorem explicitRange_bounds (bounds : List PyNumber) (minBucket maxBucket : ℤ)
    (range : PyNumber × PyNumber) :
    explicitRange ⟨some bounds⟩ minBucket maxBucket range =
      if minBucket ≠ 0 ∧ bounds ≠ [] then
        (if minBucket - 1 < bounds.length then itemAt bounds (minBucket - 1)
          else itemAt bounds (-1)) >>= fun distMin =>
        (if maxBucket < bounds.length then itemAt bounds maxBucket else itemAt bounds (-1)) >>=
          fun distMax => .ok (distMin, distMax)
      else .ok range := by
  rw [explicitRange]
  simp only [field, Option.elim, bind, Except.bind]
  split_ifs <;> rfl

theorem rangeAround_explicit (bounds : List PyNumber) (distMean : PyNumber)
    (hwf : (Bucketing.explicit bounds).WellFormed)
    (hcounts : Lists (Bucketing.explicit bounds).boundaries values counts)
    (hvalues : values ≠ []) (hmean : distMean.toRat = mean values) :
    RangeAround values (.explicit bounds)
      (explicitRange ⟨some bounds⟩ (firstBucket counts) (counts.length - 1)
        (distMean, distMean)) := by
  have hlength := firstBucket_lt_length hcounts hvalues
  rw [explicitRange_bounds]
  by_cases hguard : (firstBucket counts : ℤ) ≠ 0 ∧ bounds ≠ []
  · obtain ⟨hfirst, hne⟩ := hguard
    have hfirst' : firstBucket counts ≠ 0 := by omega
    obtain ⟨hlt, hmin⟩ := firstBound_le_mean hwf.sorted hcounts hvalues hfirst'
    rw [Bucketing.boundaries, List.length_map] at hlt
    simp only [Bucketing.boundaries, List.getElem_map] at hmin
    have hlow : (firstBucket counts : ℤ) - 1 = ((firstBucket counts - 1 : ℕ) : ℤ) := by omega
    have hhigh : (counts.length : ℤ) - 1 = ((counts.length - 1 : ℕ) : ℤ) := by omega
    rw [if_pos ⟨hfirst, hne⟩, hlow, hhigh, if_pos (Nat.cast_lt.mpr hlt), itemAt_natCast hlt]
    have hoverflow := meanOverflows_iff hwf hcounts hfirst' hne
    by_cases hlast : counts.length - 1 < bounds.length
    · have hmax := mean_le_lastBound hwf.sorted hcounts hvalues
        (by simpa [Bucketing.boundaries] using hlast)
      simp only [Bucketing.boundaries, List.getElem_map] at hmax
      rw [if_pos (Nat.cast_lt.mpr hlast), itemAt_natCast hlast]
      refine ⟨_, _, rfl, hmin, fun _ => iff_of_true hmax ?_⟩
      rw [hoverflow, not_and, not_lt]
      intro _
      exact hmax.trans (toRat_le_getLast hwf hlast hne)
    · rw [if_neg (by omega), itemAt_neg_one hne]
      refine ⟨_, _, rfl, hmin, fun hthree => ?_⟩
      rw [hoverflow, not_and, not_lt]
      exact ⟨fun hmax _ => hmax, fun hmax => hmax hthree⟩
  · rw [if_neg hguard]
    exact rangeAround_mean hmean (not_meanOverflows_of_firstBucket hwf hcounts hvalues hguard)

theorem rangeAround_bucketRange {bucketing : Bucketing} {distMean : PyNumber}
    (hwf : bucketing.WellFormed) (hcounts : Lists bucketing.boundaries values counts)
    (hvalues : values ≠ []) (hmean : distMean.toRat = mean values) :
    RangeAround values bucketing
      (bucketRange (.exact F) bucketing.options counts.length (firstBucket counts)
        (counts.length - 1) (distMean, distMean)) := by
  cases bucketing with
  | explicit bounds => exact rangeAround_explicit bounds distMean hwf hcounts hvalues hmean
  | linear numFiniteBuckets offset width =>
    exact rangeAround_linear F numFiniteBuckets offset width distMean hwf hcounts hvalues hmean
  | exponential numFiniteBuckets growthFactor scale =>
    exact rangeAround_exponential F numFiniteBuckets growthFactor scale distMean hwf hcounts
      hvalues hmean

end Range

section Line

variable (F : FloatText) {values : List ℚ} {bucketing : Bucketing}
  {point : DistributionValue PyNumber}

theorem PointOf.intOf_count (hpoint : PointOf values bucketing point) :
    intOf (point.count.getD "0".toList) = .ok (values.length : ℤ) := by
  obtain ⟨text, htext, hint⟩ := Option.bind_eq_some_iff.mp hpoint.count
  rw [htext, Option.getD_some, intOf, hint]
  rfl

theorem summarize_pointOf (hvalues : values ≠ []) (hwf : bucketing.WellFormed)
    (hpoint : PointOf values bucketing point) :
    ∃ d, summarize (.exact F) point = .ok (some d) ∧ d.count = values.length ∧
      d.sum = (point.mean.getD (.int 0)).times (.int values.length) ∧
      d.min.toRat ≤ mean values ∧
      (mean values ≤ d.max.toRat ↔ ¬ MeanOverflows values bucketing) := by
  have hpos := List.length_pos_of_ne_nil hvalues
  have hzero : (values.length : ℤ) ≠ 0 := by omega
  have hcount := hpoint.intOf_count
  have hmean := hpoint.mean
  have hzeroMean : (Arithmetic.exact F).ofInt 0 = .int 0 := rfl
  have hsum : ∀ x : PyNumber,
      (Arithmetic.exact F).mul x ((Arithmetic.exact F).ofInt values.length) =
        .ok (x.times (.int values.length)) := fun _ => rfl
  rw [summarize, hcount]
  simp only [bind, Except.bind, if_neg hzero, hzeroMean, hsum]
  generalize point.mean.getD (.int 0) = distMean at hmean ⊢
  by_cases hsmall : (values.length : ℤ) = 1 ∨ (values.length : ℤ) = 2
  · rw [if_pos hsmall]
    refine ⟨_, rfl, rfl, rfl, hmean.le, iff_of_true hmean.ge ?_⟩
    intro hoverflow
    cases bucketing with
    | explicit bounds =>
      have hthree : 3 ≤ values.length := hoverflow.1
      omega
    | linear numFiniteBuckets offset width => exact hoverflow
    | exponential numFiniteBuckets growthFactor scale => exact hoverflow
  · obtain ⟨texts, counts, htexts, hread, hlists⟩ := hpoint.bucketCounts
    have hfirst := minBucket_eq (firstBucket_lt_length hlists hvalues)
    obtain ⟨distMin, distMax, hrange, hmin, hmax⟩ :=
      (rangeAround_bucketRange F hwf hlists hvalues hmean).range
    rw [if_neg hsmall, hpoint.bucketOptions, htexts]
    simp only [field, Option.elim, mapM_intOf_eq_ok hread, hfirst, List.length_map, hrange]
    exact ⟨_, rfl, rfl, rfl, hmin, hmax (by omega)⟩

theorem distribution_consistent {value : TypedValue PyNumber} (metric : Metric)
    (hvalues : values ≠ []) (hwf : bucketing.WellFormed)
    (hvalue : value.distributionValue = some point)
    (hpoint : PointOf values bucketing point) :
    ∃ line d,
      extractValue (.exact F) value "distributionValue".toList metric = .ok (some (.text line)) ∧
      readDistribution F (.text line) = .ok d ∧
      d.count = values.length ∧
      d.sum = percentFactor metric.unit * (mean values * values.length) ∧
      d.min ≤ d.sum / d.count ∧
      (d.sum / d.count ≤ d.max ↔ ¬ MeanOverflows values bucketing) := by
  obtain ⟨d, hsummarize, hcount, hsum, hmin, hmax⟩ := summarize_pointOf F hvalues hwf hpoint
  have hsumRat : d.sum.toRat = mean values * values.length := by
    rw [hsum, PyNumber.toRat_times, hpoint.mean, PyNumber.toRat, Int.cast_natCast]
  have hlength : (values.length : ℚ) ≠ 0 :=
    Nat.cast_ne_zero.mpr (List.length_pos_of_ne_nil hvalues).ne'
  have hfactor : (0 : ℚ) < (percentFactor metric.unit : ℚ) :=
    Int.cast_pos.mpr (percentFactor_pos metric.unit)
  have hquotient : (percentFactor metric.unit : ℚ) * (mean values * values.length) /
      values.length = percentFactor metric.unit * mean values := by
    rw [← mul_assoc, mul_div_cancel_right₀ _ hlength]
  have hread := readDistribution_gaugeLine F d.min d.max d.count d.sum metric.unit
  refine ⟨_, _, ?_, hread, hcount, ?_, ?_, ?_⟩
  · rw [extractValue, if_pos rfl, hvalue]
    simp only [field, Option.elim, bind, Except.bind, extractDistribution, hsummarize]
    rfl
  all_goals simp only [toRat_scale, hsumRat, hcount, Int.cast_natCast]
  · rw [hquotient]
    exact mul_le_mul_of_nonneg_left hmin hfactor.le
  · rw [hquotient, mul_le_mul_iff_right₀ hfactor]
    exact hmax

end Line

def latencyMetric (unit : Option Text) : Metric :=
  Metric.init {
    name := none
    key := some "cloud.gcp.loadbalancing.latencies".toList
    value := some "metric:loadbalancing.googleapis.com/https/total_latencies".toList
    type := some "gauge".toList
    description := none
    gcpOptions := some ⟨some "DELTA".toList, some "DISTRIBUTION".toList, unit, none, none⟩
    dimensions := none } 0 false []

def beyondLastBound : DistributionValue PyNumber where
  count := some "3".toList
  mean := some (.int 5)
  bucketOptions := some (Bucketing.explicit [.int 1]).options
  bucketCounts := some ["0".toList, "3".toList]

theorem pointOf_beyondLastBound : PointOf [5, 5, 5] (.explicit [.int 1]) beyondLastBound where
  count := by decide +kernel
  mean := by decide +kernel
  bucketOptions := rfl
  bucketCounts := by
    refine ⟨["0".toList, "3".toList], [0, 3], rfl, ?_, 0, by decide +kernel⟩
    exact .cons (by decide +kernel) (.cons (by decide +kernel) .nil)

theorem mean_above_last_bound :
    ¬ ∀ (F : FloatText) (values : List ℚ) (bucketing : Bucketing) (value : TypedValue PyNumber)
      (point : DistributionValue PyNumber) (metric : Metric),
      values ≠ [] → bucketing.WellFormed → value.distributionValue = some point →
        PointOf values bucketing point →
          ∃ line d,
            extractValue (.exact F) value "distributionValue".toList metric =
              .ok (some (.text line)) ∧
            readDistribution F (.text line) = .ok d ∧
            d.count = values.length ∧
            d.sum = percentFactor metric.unit * (mean values * values.length) ∧
            d.min ≤ d.sum / d.count ∧ d.sum / d.count ≤ d.max := by
  intro hclaim
  obtain ⟨line, d, hextract, hread, hcount, hsum, -, hmax⟩ :=
    hclaim .wholeOrFraction [5, 5, 5] (.explicit [.int 1]) ⟨none, none, none, some beyondLastBound⟩
      beyondLastBound (latencyMetric none) (List.cons_ne_nil _ _) (List.pairwise_singleton _ _) rfl
      pointOf_beyondLastBound
  have hline : extractValue (.exact .wholeOrFraction) ⟨none, none, none, some beyondLastBound⟩
      "distributionValue".toList (latencyMetric none) =
        .ok (some (.text
          (gaugeLine (.exact .wholeOrFraction) (.int 1) (.int 1) 3 (.int 15) none))) := by
    decide +kernel
  rw [hline, Except.ok.injEq, Option.some.injEq, ExtractedValue.text.injEq] at hextract
  rw [← hextract, readDistribution_gaugeLine, Except.ok.injEq] at hread
  rw [← hread] at hmax
  exact absurd hmax (by decide +kernel)

def withinBounds : DistributionValue PyNumber where
  count := some "3".toList
  mean := some (.int 5)
  bucketOptions := some (Bucketing.explicit [.int 1, .int 10]).options
  bucketCounts := some ["0".toList, "3".toList]

theorem pointOf_withinBounds :
    PointOf [4, 5, 6] (.explicit [.int 1, .int 10]) withinBounds where
  count := by decide +kernel
  mean := by decide +kernel
  bucketOptions := rfl
  bucketCounts := by
    refine ⟨["0".toList, "3".toList], [0, 3], rfl, ?_, 1, by decide +kernel⟩
    exact .cons (by decide +kernel) (.cons (by decide +kernel) .nil)

theorem distribution_consistent_within_bounds :
    ∃ line d, extractValue (.exact .wholeOrFraction) ⟨none, none, none, some withinBounds⟩
        "distributionValue".toList (latencyMetric (some unit10To2Percent)) =
          .ok (some (.text line)) ∧
      readDistribution .wholeOrFraction (.text line) = .ok d ∧
      d.count = 3 ∧ d.sum = 1500 ∧ d.min ≤ 500 ∧ 500 ≤ d.max := by
  have hwf : (Bucketing.explicit [.int 1, .int 10]).WellFormed := by
    unfold Bucketing.WellFormed
    decide +kernel
  have hfits : ¬ MeanOverflows [4, 5, 6] (.explicit [.int 1, .int 10]) := by
    rintro ⟨-, -, last, hlast, hlt⟩
    cases hlast
    exact absurd hlt (by decide +kernel)
  have hvalue : (⟨none, none, none, some withinBounds⟩ : TypedValue PyNumber).distributionValue =
      some withinBounds := rfl
  obtain ⟨line, d, hextract, hread, hcount, hsum, hmin, hmax⟩ :=
    distribution_consistent .wholeOrFraction (latencyMetric (some unit10To2Percent))
      (List.cons_ne_nil _ _) hwf hvalue pointOf_withinBounds
  have hquotient : d.sum / d.count = 500 := by
    rw [hsum, hcount]
    decide +kernel
  rw [hquotient] at hmin hmax
  refine ⟨line, d, hextract, hread, hcount, ?_, hmin, hmax.mpr hfits⟩
  rw [hsum]
  decide +kernel

end GcpMonitor.Metrics
