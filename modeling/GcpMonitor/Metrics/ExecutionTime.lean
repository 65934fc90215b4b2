import GcpMonitor.Library.Timeline
import Mathlib.Algebra.Order.Group.Abs
import Mathlib.Algebra.Order.Ring.Int

namespace GcpMonitor.Metrics

open Timeline

/-- Instants and durations are counted in microseconds, as `datetime` and `timedelta` keep them. -/
def second : ℤ := 1000000

def minute : ℤ := 60 * second

def truncateToSecond (t : ℤ) : ℤ := t / second * second

def catchUpThreshold : ℤ := minute

def hardResetThreshold : ℤ := 30 * minute

inductive SnapAction where
  | init
  | snapped (drift : ℤ)
  | catchUp (drift : ℤ)
  | hardReset (drift : ℤ)
  deriving DecidableEq

def SnapAction.IsHardReset : SnapAction → Prop
  | .hardReset _ => True
  | _ => False

structure Snap where
  executionTime : ℤ
  intervalSeconds : ℤ
  action : SnapAction
  deriving DecidableEq

/-- The new `_last_execution_time` and what the call returns. -/
def snapExecutionTime (lastExecutionTime : Option ℤ) (now intervalSeconds : ℤ) :
    Option ℤ × Snap :=
  let truncatedNow := truncateToSecond now
  let interval := intervalSeconds * second
  match lastExecutionTime with
  | none => (some truncatedNow, ⟨truncatedNow, intervalSeconds, .init⟩)
  | some last =>
    let expected := last + interval
    let drift := now - expected
    if |drift| ≤ catchUpThreshold then
      (some expected, ⟨expected, intervalSeconds, .snapped drift⟩)
    else if 0 < drift ∧ drift ≤ hardResetThreshold then
      let catchUpExecutionTime := expected + 60 * second
      (some catchUpExecutionTime, ⟨catchUpExecutionTime, intervalSeconds + 60, .catchUp drift⟩)
    else
      (some truncatedNow, ⟨truncatedNow, intervalSeconds, .hardReset drift⟩)

structure ExecutionContext where
  executionTime : ℤ
  executionInterval : ℤ

def Snap.context (snap : Snap) : ExecutionContext where
  executionTime := truncateToSecond snap.executionTime
  executionInterval := snap.intervalSeconds * second

def fetchWindow (context : ExecutionContext) (ingestDelay : ℤ) : Window ℤ :=
  let endTime := context.executionTime - ingestDelay
  ⟨endTime - context.executionInterval, endTime⟩

section Run

variable (intervalSeconds : ℤ) (now : ℕ → ℤ)

def lastExecutionTime : ℕ → Option ℤ
  | 0 => none
  | n + 1 => (snapExecutionTime (lastExecutionTime n) (now n) intervalSeconds).1

def cycle (n : ℕ) : Snap :=
  (snapExecutionTime (lastExecutionTime intervalSeconds now n) (now n) intervalSeconds).2

def queryWindow (ingestDelay : ℤ) (n : ℕ) : Window ℤ :=
  fetchWindow (cycle intervalSeconds now n).context ingestDelay

end Run

theorem truncateToSecond_le (t : ℤ) : truncateToSecond t ≤ t := by
  simp only [truncateToSecond, second]
  omega

theorem lt_truncateToSecond (t : ℤ) : t - second < truncateToSecond t := by
  simp only [truncateToSecond, second]
  omega

theorem truncateToSecond_of_dvd {t : ℤ} (h : second ∣ t) : truncateToSecond t = t :=
  Int.ediv_mul_cancel h

theorem second_dvd_truncateToSecond (t : ℤ) : second ∣ truncateToSecond t :=
  ⟨t / second, Int.mul_comm _ _⟩

theorem snapExecutionTime_last (last : Option ℤ) (now intervalSeconds : ℤ) :
    (snapExecutionTime last now intervalSeconds).1 =
      some (snapExecutionTime last now intervalSeconds).2.executionTime := by
  cases last with
  | none => rfl
  | some last =>
    simp only [snapExecutionTime]
    split_ifs <;> rfl

theorem snapExecutionTime_cases (last now intervalSeconds : ℤ) :
    let snap := (snapExecutionTime (some last) now intervalSeconds).2
    let drift := now - (last + intervalSeconds * second)
    (snap.executionTime = last + snap.intervalSeconds * second ∧
        (snap.action = .snapped drift ∧ snap.intervalSeconds = intervalSeconds ∧
            |drift| ≤ catchUpThreshold ∨
          snap.action = .catchUp drift ∧ snap.intervalSeconds = intervalSeconds + 60 ∧
            catchUpThreshold < drift ∧ drift ≤ hardResetThreshold)) ∨
      (snap.executionTime = truncateToSecond now ∧ snap.intervalSeconds = intervalSeconds ∧
        snap.action = .hardReset drift ∧
        (hardResetThreshold < drift ∨ drift < -catchUpThreshold)) := by
  intro snap drift
  by_cases hsnap : |drift| ≤ catchUpThreshold
  · have hval : snap = ⟨last + intervalSeconds * second, intervalSeconds, .snapped drift⟩ :=
      congrArg Prod.snd (if_pos hsnap)
    rw [hval]
    exact .inl ⟨rfl, .inl ⟨rfl, rfl, hsnap⟩⟩
  · have hfar : catchUpThreshold < drift ∨ drift < -catchUpThreshold := by
      rw [abs_le] at hsnap
      omega
    by_cases hcatch : 0 < drift ∧ drift ≤ hardResetThreshold
    · have hval : snap = ⟨last + intervalSeconds * second + 60 * second, intervalSeconds + 60,
          .catchUp drift⟩ :=
        congrArg Prod.snd ((if_neg hsnap).trans (if_pos hcatch))
      rw [hval]
      have hlow : catchUpThreshold < drift := by
        simp only [catchUpThreshold, minute, second] at hfar ⊢
        omega
      refine .inl ⟨?_, .inr ⟨rfl, rfl, hlow, hcatch.2⟩⟩
      simp only [Int.add_mul, Int.add_assoc]
    · have hval : snap = ⟨truncateToSecond now, intervalSeconds, .hardReset drift⟩ :=
        congrArg Prod.snd ((if_neg hsnap).trans (if_neg hcatch))
      rw [hval]
      refine .inr ⟨rfl, rfl, rfl, ?_⟩
      simp only [catchUpThreshold, hardResetThreshold, minute, second] at hfar hcatch ⊢
      omega

section Run

variable (intervalSeconds : ℤ) (now : ℕ → ℤ)

theorem lastExecutionTime_succ (n : ℕ) :
    lastExecutionTime intervalSeconds now (n + 1) =
      some (cycle intervalSeconds now n).executionTime :=
  snapExecutionTime_last _ _ _

theorem cycle_succ (n : ℕ) :
    cycle intervalSeconds now (n + 1) =
      (snapExecutionTime (some (cycle intervalSeconds now n).executionTime) (now (n + 1))
        intervalSeconds).2 := by
  rw [cycle, lastExecutionTime_succ]

theorem second_dvd_executionTime (n : ℕ) :
    second ∣ (cycle intervalSeconds now n).executionTime := by
  induction n with
  | zero => exact second_dvd_truncateToSecond (now 0)
  | succ n ih =>
    rw [cycle_succ]
    rcases snapExecutionTime_cases (cycle intervalSeconds now n).executionTime (now (n + 1))
      intervalSeconds with ⟨htime, -⟩ | ⟨htime, -⟩
    · rw [htime]
      exact Int.dvd_add ih (Int.dvd_mul_left _ _)
    · rw [htime]
      exact second_dvd_truncateToSecond _

theorem queryWindow_eq (ingestDelay : ℤ) (n : ℕ) :
    queryWindow intervalSeconds now ingestDelay n =
      ⟨(cycle intervalSeconds now n).executionTime - ingestDelay -
          (cycle intervalSeconds now n).intervalSeconds * second,
        (cycle intervalSeconds now n).executionTime - ingestDelay⟩ := by
  simp only [queryWindow, fetchWindow, Snap.context,
    truncateToSecond_of_dvd (second_dvd_executionTime intervalSeconds now n)]

theorem queryWindow_adjacent (ingestDelay : ℤ) (n : ℕ)
    (h : ¬ (cycle intervalSeconds now (n + 1)).action.IsHardReset) :
    (queryWindow intervalSeconds now ingestDelay (n + 1)).start =
      (queryWindow intervalSeconds now ingestDelay n).stop := by
  simp only [queryWindow_eq]
  rw [cycle_succ] at h ⊢
  rcases snapExecutionTime_cases (cycle intervalSeconds now n).executionTime (now (n + 1))
    intervalSeconds with ⟨htime, -⟩ | ⟨-, -, haction, -⟩
  · rw [htime]
    omega
  · rw [haction] at h
    exact absurd trivial h

theorem intervalSeconds_le_cycle (n : ℕ) :
    intervalSeconds ≤ (cycle intervalSeconds now n).intervalSeconds := by
  cases n with
  | zero => exact le_refl _
  | succ n =>
    rw [cycle_succ]
    have hcases := snapExecutionTime_cases (cycle intervalSeconds now n).executionTime
      (now (n + 1)) intervalSeconds
    rcases hcases with ⟨-, ⟨-, h, -⟩ | ⟨-, h, -⟩⟩ | ⟨-, h, -⟩ <;> omega

variable {intervalSeconds now}
variable (hspaced : ∀ n, now n + intervalSeconds * second ≤ now (n + 1))

include hspaced

theorem executionTime_le_now (n : ℕ) : (cycle intervalSeconds now n).executionTime ≤ now n := by
  induction n with
  | zero => exact truncateToSecond_le (now 0)
  | succ n ih =>
    have hgap := hspaced n
    rw [cycle_succ]
    have hcases := snapExecutionTime_cases (cycle intervalSeconds now n).executionTime
      (now (n + 1)) intervalSeconds
    rcases hcases with ⟨htime, ⟨-, heff, -⟩ | ⟨-, heff, hlow, -⟩⟩ | ⟨htime, -⟩
    · rw [htime, heff]
      omega
    · rw [htime, heff]
      simp only [catchUpThreshold, minute] at hlow
      simp only [Int.add_mul]
      omega
    · rw [htime]
      exact truncateToSecond_le _

theorem drift_of_hardReset {n : ℕ}
    (h : (cycle intervalSeconds now (n + 1)).action.IsHardReset) :
    let drift := now (n + 1) -
      ((cycle intervalSeconds now n).executionTime + intervalSeconds * second)
    (cycle intervalSeconds now (n + 1)).action = .hardReset drift ∧ hardResetThreshold < drift ∧
      (cycle intervalSeconds now (n + 1)).executionTime = truncateToSecond (now (n + 1)) ∧
      (cycle intervalSeconds now (n + 1)).intervalSeconds = intervalSeconds := by
  have hgap := hspaced n
  have hle := executionTime_le_now hspaced n
  rw [cycle_succ] at h ⊢
  intro drift
  have hcases := snapExecutionTime_cases (cycle intervalSeconds now n).executionTime
    (now (n + 1)) intervalSeconds
  rcases hcases with ⟨-, ⟨haction, -⟩ | ⟨haction, -⟩⟩ | ⟨htime, heff, haction, hdrift⟩
  · rw [haction] at h
    exact absurd h id
  · rw [haction] at h
    exact absurd h id
  · refine ⟨haction, ?_, htime, heff⟩
    rcases hdrift with hbehind | hahead
    · exact hbehind
    · simp only [catchUpThreshold, minute, second] at hahead hgap
      omega

theorem queryWindow_precedes_succ (ingestDelay : ℤ) (n : ℕ) :
    (queryWindow intervalSeconds now ingestDelay n).Precedes
      (queryWindow intervalSeconds now ingestDelay (n + 1)) := by
  by_cases h : (cycle intervalSeconds now (n + 1)).action.IsHardReset
  · obtain ⟨-, hdrift, htime, heff⟩ := drift_of_hardReset hspaced h
    have htrunc := lt_truncateToSecond (now (n + 1))
    simp only [Window.Precedes, queryWindow_eq, htime, heff]
    simp only [hardResetThreshold, minute] at hdrift
    simp only [second] at *
    omega
  · exact le_of_eq (queryWindow_adjacent intervalSeconds now ingestDelay n h).symm

end Run

theorem queryWindows_tile (intervalSeconds : ℤ) (hinterval : 0 < intervalSeconds) (now : ℕ → ℤ)
    (ingestDelay : ℤ) :
    (∀ n, ¬ (cycle intervalSeconds now (n + 1)).action.IsHardReset →
      (queryWindow intervalSeconds now ingestDelay (n + 1)).start =
        (queryWindow intervalSeconds now ingestDelay n).stop) ∧
    ((∀ n, now n + intervalSeconds * second ≤ now (n + 1)) →
      (∀ i j, i ≠ j → ¬ (queryWindow intervalSeconds now ingestDelay i).Overlap
        (queryWindow intervalSeconds now ingestDelay j)) ∧
      (∀ n, (cycle intervalSeconds now n).executionTime ≤ now n) ∧
      ∀ n, (queryWindow intervalSeconds now ingestDelay (n + 1)).start ≠
          (queryWindow intervalSeconds now ingestDelay n).stop →
        ∃ drift, (cycle intervalSeconds now (n + 1)).action = .hardReset drift ∧
          30 * minute < drift) := by
  refine ⟨queryWindow_adjacent intervalSeconds now ingestDelay, ?_⟩
  intro hspaced
  refine ⟨?_, executionTime_le_now hspaced, ?_⟩
  · intro i j hij
    refine not_overlap_of_ne ?_ (queryWindow_precedes_succ hspaced ingestDelay) hij
    intro n
    have hle := intervalSeconds_le_cycle intervalSeconds now n
    simp only [queryWindow_eq, second]
    omega
  · intro n hgap
    have hreset : (cycle intervalSeconds now (n + 1)).action.IsHardReset := by
      by_contra h
      exact hgap (queryWindow_adjacent intervalSeconds now ingestDelay n h)
    obtain ⟨haction, hdrift, -⟩ := drift_of_hardReset hspaced hreset
    exact ⟨_, haction, hdrift⟩

theorem queryWindows_tile_after_outage :
    (¬ (queryWindow 240 (fun n => 2400 * second * n) 0 0).Overlap
      (queryWindow 240 (fun n => 2400 * second * n) 0 5)) ∧
    ∃ drift, (cycle 240 (fun n => 2400 * second * n) 1).action = .hardReset drift ∧
      30 * minute < drift := by
  have hspaced : ∀ n : ℕ, 2400 * second * (n : ℤ) + 240 * second ≤
      2400 * second * ((n + 1 : ℕ) : ℤ) := by
    intro n
    simp only [second]
    omega
  obtain ⟨-, hall⟩ := queryWindows_tile 240 (by decide) (fun n => 2400 * second * n) 0
  obtain ⟨hoverlap, -, hgap⟩ := hall hspaced
  exact ⟨hoverlap 0 5 (by decide), hgap 0 (by decide)⟩

end GcpMonitor.Metrics
