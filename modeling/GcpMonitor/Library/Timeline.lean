import Mathlib.Order.Lattice
import Mathlib.Order.MinMax

namespace GcpMonitor.Timeline

variable {α : Type} [LinearOrder α]

structure Window (α : Type) where
  start : α
  stop : α

namespace Window

def Precedes (w v : Window α) : Prop := w.stop ≤ v.start

def Overlap (w v : Window α) : Prop := max w.start v.start < min w.stop v.stop

theorem Overlap.symm {w v : Window α} (h : w.Overlap v) : v.Overlap w := by
  rw [Overlap, max_comm, min_comm]
  exact h

theorem Precedes.not_overlap {w v : Window α} (h : w.Precedes v) : ¬ w.Overlap v := by
  intro ho
  have hstart : v.start < w.stop := (max_lt_iff.mp (lt_min_iff.mp ho).1).2
  exact absurd hstart (not_lt.mpr h)

end Window

section Sequence

variable {windows : ℕ → Window α}
  (hproper : ∀ n, (windows n).start ≤ (windows n).stop)
  (hnext : ∀ n, (windows n).Precedes (windows (n + 1)))

include hproper hnext

theorem precedes_of_lt {i j : ℕ} (hij : i < j) : (windows i).Precedes (windows j) := by
  induction j, hij using Nat.le_induction with
  | base => exact hnext i
  | succ j _ ih => exact ih.trans ((hproper j).trans (hnext j))

theorem not_overlap_of_ne {i j : ℕ} (hij : i ≠ j) : ¬ (windows i).Overlap (windows j) := by
  rcases Nat.lt_or_gt_of_ne hij with h | h
  · exact (precedes_of_lt hproper hnext h).not_overlap
  · intro ho
    exact (precedes_of_lt hproper hnext h).not_overlap ho.symm

end Sequence

theorem exists_window_of_adjacent {windows : ℕ → Window α}
    (hadjacent : ∀ n, (windows (n + 1)).start = (windows n).stop) {n : ℕ} {t : α}
    (hstart : (windows 0).start ≤ t) (hstop : t < (windows n).stop) :
    ∃ i ≤ n, (windows i).start ≤ t ∧ t < (windows i).stop := by
  induction n with
  | zero => exact ⟨0, le_refl _, hstart, hstop⟩
  | succ n ih =>
    by_cases h : t < (windows n).stop
    · obtain ⟨i, hi, hmem⟩ := ih h
      exact ⟨i, by omega, hmem⟩
    · refine ⟨n + 1, le_refl _, ?_, hstop⟩
      rw [hadjacent n]
      exact not_lt.mp h

end GcpMonitor.Timeline
