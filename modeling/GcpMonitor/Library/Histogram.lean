import Mathlib.Algebra.BigOperators.Group.List.Basic
import Mathlib.Algebra.Order.BigOperators.Group.List
import Mathlib.Algebra.Order.Field.Basic
import Mathlib.Data.List.GetD

namespace GcpMonitor.Histogram

section Buckets

variable {α : Type} [LinearOrder α] {bounds values : List α} {v : α}

/-- Bucket `i` starts at bound `i - 1`, which belongs to it, and ends before bound `i`; the first
bucket has no start and the last one no end. -/
def bucketOf (bounds : List α) (v : α) : ℕ := bounds.countP (fun b => b ≤ v)

def bucketCounts (bounds values : List α) : List ℕ :=
  (List.range (bounds.length + 1)).map (fun i => values.countP (fun v => bucketOf bounds v = i))

def Lists (bounds values : List α) (counts : List ℕ) : Prop :=
  ∃ omitted, bucketCounts bounds values = counts ++ List.replicate omitted 0

def firstBucket (counts : List ℕ) : ℕ := counts.findIdx (fun count => 0 < count)

theorem bucketOf_le_length (bounds : List α) (v : α) : bucketOf bounds v ≤ bounds.length :=
  List.countP_le_length

theorem bucketOf_eq_zero (h : ∀ b ∈ bounds, v < b) : bucketOf bounds v = 0 := by
  rw [bucketOf, List.countP_eq_zero]
  intro b hb
  simpa using h b hb

theorem lt_bucketOf_iff (hsorted : bounds.Pairwise (· < ·)) {i : ℕ} (hi : i < bounds.length) :
    i < bucketOf bounds v ↔ bounds[i] ≤ v := by
  induction bounds generalizing i with
  | nil => simp at hi
  | cons b bounds ih =>
    obtain ⟨hb, hrest⟩ := List.pairwise_cons.mp hsorted
    by_cases hbv : b ≤ v
    · have hcount : bucketOf (b :: bounds) v = bucketOf bounds v + 1 := by
        rw [bucketOf, List.countP_cons_of_pos (by simpa using hbv)]
        rfl
      rw [hcount]
      cases i with
      | zero => simpa using hbv
      | succ i =>
        rw [Nat.add_lt_add_iff_right, List.getElem_cons_succ]
        exact ih hrest (Nat.lt_of_succ_lt_succ hi)
    · have hzero : bucketOf (b :: bounds) v = 0 := by
        apply bucketOf_eq_zero
        intro c hc
        rcases List.mem_cons.mp hc with rfl | hc
        · exact not_le.mp hbv
        · exact (not_le.mp hbv).trans (hb c hc)
      rw [hzero]
      apply iff_of_false (Nat.not_lt_zero i)
      cases i with
      | zero => exact hbv
      | succ i =>
        rw [List.getElem_cons_succ, not_le]
        exact (not_le.mp hbv).trans (hb _ (List.getElem_mem _))

theorem bucketCounts_pos (bounds : List α) (hv : v ∈ values) :
    ∃ count, (bucketCounts bounds values)[bucketOf bounds v]? = some count ∧ 0 < count := by
  refine ⟨values.countP (fun w => bucketOf bounds w = bucketOf bounds v), ?_, ?_⟩
  · have hlt := bucketOf_le_length bounds v
    rw [bucketCounts, List.getElem?_map, List.getElem?_range (by omega)]
    rfl
  · rw [List.countP_pos_iff]
    exact ⟨v, hv, by simp⟩

namespace Lists

variable {counts : List ℕ} (h : Lists bounds values counts)

include h

theorem exists_firstBucket (hlt : firstBucket counts < counts.length) :
    ∃ v ∈ values, bucketOf bounds v = firstBucket counts := by
  obtain ⟨omitted, hcounts⟩ := h
  have hpos : 0 < counts[firstBucket counts] :=
    of_decide_eq_true (List.findIdx_getElem (w := hlt))
  have hget : (bucketCounts bounds values)[firstBucket counts]? =
      some counts[firstBucket counts] := by
    rw [hcounts, List.getElem?_append_left hlt, List.getElem?_eq_getElem hlt]
  obtain ⟨hbucket, hcount⟩ := List.getElem?_eq_some_iff.mp hget
  simp only [bucketCounts, List.getElem_map, List.getElem_range] at hcount
  rw [← hcount, List.countP_pos_iff] at hpos
  obtain ⟨v, hv, hindex⟩ := hpos
  exact ⟨v, hv, of_decide_eq_true hindex⟩

variable (hv : v ∈ values)

include hv

theorem getElem?_bucketOf : ∃ count, counts[bucketOf bounds v]? = some count ∧ 0 < count := by
  obtain ⟨omitted, hcounts⟩ := h
  obtain ⟨count, hget, hpos⟩ := bucketCounts_pos bounds hv
  rw [hcounts] at hget
  refine ⟨count, ?_, hpos⟩
  by_cases hlt : bucketOf bounds v < counts.length
  · rw [List.getElem?_append_left hlt] at hget
    exact hget
  · rw [List.getElem?_append_right (not_lt.mp hlt), List.getElem?_replicate] at hget
    split_ifs at hget
    cases hget
    exact absurd hpos (lt_irrefl 0)

theorem bucketOf_lt_length : bucketOf bounds v < counts.length := by
  obtain ⟨count, hget, -⟩ := h.getElem?_bucketOf hv
  exact (List.getElem?_eq_some_iff.mp hget).1

theorem firstBucket_le : firstBucket counts ≤ bucketOf bounds v := by
  obtain ⟨count, hget, hpos⟩ := h.getElem?_bucketOf hv
  obtain ⟨hlt, rfl⟩ := List.getElem?_eq_some_iff.mp hget
  by_contra hle
  have hfalse := List.not_of_lt_findIdx (not_le.mp hle)
  exact absurd hpos (by simpa using hfalse)

theorem firstBound_le (hsorted : bounds.Pairwise (· < ·)) (hfirst : firstBucket counts ≠ 0) :
    ∃ hlt : firstBucket counts - 1 < bounds.length, bounds[firstBucket counts - 1] ≤ v := by
  have hle := h.firstBucket_le hv
  have hlength := bucketOf_le_length bounds v
  have hlt : firstBucket counts - 1 < bounds.length := by omega
  exact ⟨hlt, (lt_bucketOf_iff hsorted hlt).mp (by omega)⟩

theorem lt_lastBound (hsorted : bounds.Pairwise (· < ·))
    (hlast : counts.length - 1 < bounds.length) : v < bounds[counts.length - 1] := by
  have hlt := h.bucketOf_lt_length hv
  rw [← not_le, ← lt_bucketOf_iff hsorted hlast]
  omega

end Lists

end Buckets

section Mean

variable {α : Type} [Field α] [LinearOrder α] [IsStrictOrderedRing α] {values : List α} {bound : α}

def mean (values : List α) : α := values.sum / values.length

theorem mean_le (hne : values ≠ []) (h : ∀ v ∈ values, v ≤ bound) : mean values ≤ bound := by
  have hsum := List.sum_le_card_nsmul values bound h
  have hlength : (0 : α) < values.length := by
    rw [Nat.cast_pos]
    exact List.length_pos_of_ne_nil hne
  rw [mean, div_le_iff₀ hlength, mul_comm]
  rwa [nsmul_eq_mul] at hsum

theorem le_mean (hne : values ≠ []) (h : ∀ v ∈ values, bound ≤ v) : bound ≤ mean values := by
  have hsum := List.card_nsmul_le_sum values bound h
  have hlength : (0 : α) < values.length := by
    rw [Nat.cast_pos]
    exact List.length_pos_of_ne_nil hne
  rw [mean, le_div_iff₀ hlength, mul_comm]
  rwa [nsmul_eq_mul] at hsum

end Mean

end GcpMonitor.Histogram
