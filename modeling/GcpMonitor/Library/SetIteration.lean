import Mathlib.Data.Finset.Dedup
import Mathlib.Data.Finset.Empty
import Mathlib.Data.List.Induction

namespace GcpMonitor

variable {α β : Type}

structure SetIteration (s : Finset α) where
  items : List α
  nodup : items.Nodup
  mem_items : ∀ x, x ∈ items ↔ x ∈ s

namespace SetIteration

def ofList [DecidableEq α] (l : List α) : SetIteration l.toFinset where
  items := l.dedup
  nodup := l.nodup_dedup
  mem_items := by simp

theorem foldl_filter {s : Finset α} (order : SetIteration s) (keep : α → β → Bool) (l : List β) :
    order.items.foldl (fun l x => l.filter (keep x)) l =
      l.filter (fun y => decide (∀ x ∈ s, keep x y = true)) := by
  have hitems : ∀ items : List α, items.foldl (fun l x => l.filter (keep x)) l =
      l.filter (fun y => items.all (fun x => keep x y)) := by
    intro items
    induction items using List.reverseRecOn with
    | nil => simp
    | append_singleton items x ih =>
      rw [List.foldl_append, List.foldl_cons, List.foldl_nil, ih, List.filter_filter]
      apply List.filter_congr
      intro y _
      rw [List.all_append, List.all_cons, List.all_nil, Bool.and_true, Bool.and_comm]
  rw [hitems]
  apply List.filter_congr
  intro y _
  rw [Bool.eq_iff_iff, List.all_eq_true, decide_eq_true_iff]
  simp only [order.mem_items]

theorem ite_nonempty_filter (s : Finset α) (keep : β → Bool) (l : List β) :
    (if s.Nonempty then l.filter keep else l) =
      l.filter (fun y => decide (s.Nonempty → keep y = true)) := by
  split_ifs with hs
  · simp [hs]
  · simp [hs]

end SetIteration

end GcpMonitor
