import GcpMonitor.Metrics.ExecutionTime

namespace GcpMonitor.Metrics

open Timeline

def SnapAction.drift : SnapAction → Option ℤ
  | .init => none
  | .snapped drift => some drift
  | .catchUp drift => some drift
  | .hardReset drift => some drift

section Run

variable (intervalSeconds : ℤ) (now : ℕ → ℤ)

/-- How far behind the clock the execution time of cycle `n` is. -/
def lateness (n : ℕ) : ℤ := now n - (cycle intervalSeconds now n).executionTime

theorem cycle_succ_drift (n : ℕ) :
    (cycle intervalSeconds now (n + 1)).action.drift =
      some (lateness intervalSeconds now n + (now (n + 1) - now n) -
        intervalSeconds * second) := by
  have hdrift : lateness intervalSeconds now n + (now (n + 1) - now n) -
      intervalSeconds * second =
        now (n + 1) - ((cycle intervalSeconds now n).executionTime +
          intervalSeconds * second) := by
    simp only [lateness]
    omega
  rw [cycle_succ, hdrift]
  have hcases := snapExecutionTime_cases (cycle intervalSeconds now n).executionTime
    (now (n + 1)) intervalSeconds
  rcases hcases with ⟨-, ⟨h, -⟩ | ⟨h, -⟩⟩ | ⟨-, -, h, -⟩ <;> rw [h] <;> rfl

theorem lateness_succ {n : ℕ} {drift : ℤ}
    (hdrift : (cycle intervalSeconds now (n + 1)).action.drift = some drift)
    (hlow : 0 ≤ drift) (hhigh : drift ≤ hardResetThreshold) :
    ¬ (cycle intervalSeconds now (n + 1)).action.IsHardReset ∧
      lateness intervalSeconds now (n + 1) = if drift ≤ minute then drift else drift - minute := by
  have hseen := cycle_succ_drift intervalSeconds now n
  rw [hdrift, Option.some.injEq] at hseen
  have hdef : now (n + 1) - ((cycle intervalSeconds now n).executionTime +
      intervalSeconds * second) = drift := by
    simp only [lateness] at hseen
    omega
  have hcases := snapExecutionTime_cases (cycle intervalSeconds now n).executionTime
    (now (n + 1)) intervalSeconds
  rw [← cycle_succ, hdef] at hcases
  simp only [lateness]
  rcases hcases with ⟨htime, ⟨haction, heff, hsnap⟩ | ⟨haction, heff, hcatch, -⟩⟩ |
    ⟨-, -, -, hreset⟩
  · rw [abs_le, catchUpThreshold] at hsnap
    rw [haction, htime, heff, if_pos hsnap.2]
    refine ⟨id, ?_⟩
    omega
  · rw [catchUpThreshold] at hcatch
    rw [haction, htime, heff, if_neg (not_le.mpr hcatch)]
    refine ⟨id, ?_⟩
    simp only [minute, Int.add_mul]
    omega
  · simp only [catchUpThreshold, minute, second] at hreset
    omega

variable {intervalSeconds now}
variable (hgap : ∀ n, intervalSeconds * second ≤ now (n + 1) - now n ∧
  now (n + 1) - now n ≤ (intervalSeconds + 60) * second)

include hgap

theorem drift_bounds_of_lateness {n : ℕ} {drift : ℤ}
    (hlow : 0 ≤ lateness intervalSeconds now n)
    (hhigh : lateness intervalSeconds now n ≤ minute)
    (hdrift : (cycle intervalSeconds now (n + 1)).action.drift = some drift) :
    0 ≤ drift ∧ drift ≤ 2 * minute := by
  rw [cycle_succ_drift, Option.some.injEq] at hdrift
  have h := hgap n
  simp only [Int.add_mul] at h
  simp only [minute] at hhigh ⊢
  omega

theorem lateness_bounds (n : ℕ) :
    0 ≤ lateness intervalSeconds now n ∧ lateness intervalSeconds now n ≤ minute := by
  induction n with
  | zero =>
    have hle := truncateToSecond_le (now 0)
    have hlt := lt_truncateToSecond (now 0)
    have hinit : lateness intervalSeconds now 0 = now 0 - truncateToSecond (now 0) := rfl
    rw [hinit]
    simp only [minute, second] at *
    omega
  | succ n ih =>
    have hdrift := cycle_succ_drift intervalSeconds now n
    obtain ⟨hlow, hhigh⟩ := drift_bounds_of_lateness hgap ih.1 ih.2 hdrift
    have hreset : 2 * minute ≤ hardResetThreshold := by decide
    rw [(lateness_succ intervalSeconds now hdrift hlow (hhigh.trans hreset)).2]
    split_ifs with h
    · exact ⟨hlow, h⟩
    · omega

theorem drift_bounds {n : ℕ} {drift : ℤ}
    (hdrift : (cycle intervalSeconds now (n + 1)).action.drift = some drift) :
    0 ≤ drift ∧ drift ≤ 2 * minute := by
  obtain ⟨hlow, hhigh⟩ := lateness_bounds hgap n
  exact drift_bounds_of_lateness hgap hlow hhigh hdrift

theorem not_isHardReset (n : ℕ) : ¬ (cycle intervalSeconds now n).action.IsHardReset := by
  cases n with
  | zero => exact id
  | succ n =>
    have hdrift := cycle_succ_drift intervalSeconds now n
    obtain ⟨hlow, hhigh⟩ := drift_bounds hgap hdrift
    have hreset : 2 * minute ≤ hardResetThreshold := by decide
    exact (lateness_succ intervalSeconds now hdrift hlow (hhigh.trans hreset)).1

theorem drift_after_catchUp {n : ℕ} {drift : ℤ}
    (hdrift : (cycle intervalSeconds now (n + 1)).action.drift = some drift)
    (hlate : minute < drift) (hnext : now (n + 2) = now (n + 1) + intervalSeconds * second) :
    (cycle intervalSeconds now (n + 2)).action.drift = some (drift - minute) := by
  obtain ⟨hlow, hhigh⟩ := drift_bounds hgap hdrift
  have hreset : 2 * minute ≤ hardResetThreshold := by decide
  have hlateness := (lateness_succ intervalSeconds now hdrift hlow (hhigh.trans hreset)).2
  rw [if_neg (not_le.mpr hlate)] at hlateness
  rw [cycle_succ_drift, hlateness]
  have hstep : now (n + 1 + 1) = now (n + 1) + intervalSeconds * second := hnext
  rw [hstep]
  congr 1
  omega

end Run

theorem lateness_caught_up (intervalSeconds : ℤ) (hinterval : 0 < intervalSeconds)
    (now : ℕ → ℤ)
    (hgap : ∀ n, intervalSeconds * second ≤ now (n + 1) - now n ∧
      now (n + 1) - now n ≤ (intervalSeconds + 60) * second)
    (ingestDelay : ℤ) :
    (∀ n, ¬ (cycle intervalSeconds now n).action.IsHardReset) ∧
    (∀ n, ∃ drift, (cycle intervalSeconds now (n + 1)).action.drift = some drift ∧
      0 ≤ drift ∧ drift ≤ 120 * second) ∧
    (∀ n, (queryWindow intervalSeconds now ingestDelay (n + 1)).start =
      (queryWindow intervalSeconds now ingestDelay n).stop) ∧
    (∀ i j, i ≠ j → ¬ (queryWindow intervalSeconds now ingestDelay i).Overlap
      (queryWindow intervalSeconds now ingestDelay j)) ∧
    (∀ n t, (queryWindow intervalSeconds now ingestDelay 0).start ≤ t →
      t < (queryWindow intervalSeconds now ingestDelay n).stop →
      ∃ i ≤ n, (queryWindow intervalSeconds now ingestDelay i).start ≤ t ∧
        t < (queryWindow intervalSeconds now ingestDelay i).stop) ∧
    (∀ n drift, (cycle intervalSeconds now (n + 1)).action.drift = some drift →
      60 * second < drift → now (n + 2) = now (n + 1) + intervalSeconds * second →
      (cycle intervalSeconds now (n + 2)).action.drift = some (drift - 60 * second)) := by
  have hadjacent : ∀ n, (queryWindow intervalSeconds now ingestDelay (n + 1)).start =
      (queryWindow intervalSeconds now ingestDelay n).stop := by
    intro n
    exact queryWindow_adjacent intervalSeconds now ingestDelay n (not_isHardReset hgap (n + 1))
  refine ⟨not_isHardReset hgap, ?_, hadjacent, ?_, ?_, ?_⟩
  · intro n
    have hdrift := cycle_succ_drift intervalSeconds now n
    obtain ⟨hlow, hhigh⟩ := drift_bounds hgap hdrift
    refine ⟨_, hdrift, hlow, ?_⟩
    simp only [minute] at hhigh
    omega
  · intro i j hij
    refine not_overlap_of_ne ?_ ?_ hij
    · intro n
      have hle := intervalSeconds_le_cycle intervalSeconds now n
      simp only [queryWindow_eq, second]
      omega
    · intro n
      exact le_of_eq (hadjacent n).symm
  · intro n t hstart hstop
    exact exists_window_of_adjacent hadjacent hstart hstop
  · intro n drift hdrift hlate hnext
    exact drift_after_catchUp hgap hdrift hlate hnext

theorem lateness_caught_up_late :
    let now : ℕ → ℤ := fun n =>
      if n ≤ 3 then 300 * second * n else 300 * second * 3 + 240 * second * (n - 3)
    (∀ n, ¬ (cycle 240 now n).action.IsHardReset) ∧
      (cycle 240 now 4).action.drift = some (120 * second - 60 * second) := by
  intro now
  have hgap : ∀ n, 240 * second ≤ now (n + 1) - now n ∧
      now (n + 1) - now n ≤ (240 + 60) * second := by
    intro n
    simp only [now, second]
    split_ifs <;> push_cast <;> omega
  have h := lateness_caught_up 240 (by decide) now hgap 0
  exact ⟨h.1, h.2.2.2.2.2 2 (120 * second) (by decide) (by decide) (by decide)⟩

end GcpMonitor.Metrics
