import Mathlib.Algebra.BigOperators.Group.List.Basic
import Mathlib.Tactic.Abel

namespace GcpMonitor.TaskPool

variable {τ σ β M : Type} {tasks : List τ} {i : ℕ} {t t' : τ}

/-- The scheduler lets task `i` go on, which it can only do when the task is ready. -/
def onTask (tasks : List τ) (i : ℕ) (ready : τ → Prop) [DecidablePred ready] (next : τ → σ) :
    Option σ :=
  match tasks[i]? with
  | some t => if ready t then some (next t) else none
  | none => none

theorem onTask_eq_some {ready : τ → Prop} [DecidablePred ready] {next : τ → σ} {s : σ} :
    onTask tasks i ready next = some s ↔ ∃ t, tasks[i]? = some t ∧ ready t ∧ s = next t := by
  unfold onTask
  cases h : tasks[i]? with
  | none => simp
  | some t =>
    constructor
    · intro hs
      have hif : (if ready t then some (next t) else none) = some s := hs
      obtain ⟨hr, hn⟩ := Option.ite_none_right_eq_some.mp hif
      exact ⟨t, rfl, hr, (Option.some.inj hn).symm⟩
    · rintro ⟨u, hu, hr, rfl⟩
      cases hu
      exact if_pos hr

theorem split_at (t' : τ) (h : tasks[i]? = some t) :
    tasks = tasks.take i ++ t :: tasks.drop (i + 1) ∧
      tasks.set i t' = tasks.take i ++ t' :: tasks.drop (i + 1) := by
  obtain ⟨hi, rfl⟩ := List.getElem?_eq_some_iff.mp h
  refine ⟨?_, List.set_eq_take_append_cons_drop.trans (if_pos hi)⟩
  rw [List.getElem_cons_drop, List.take_append_drop]

theorem sum_map_set [AddCommMonoid M] (f : τ → M) (t' : τ) (h : tasks[i]? = some t) :
    ((tasks.set i t').map f).sum + f t = (tasks.map f).sum + f t' := by
  obtain ⟨hsplit, hset⟩ := split_at t' h
  rw [hset]
  conv_rhs => rw [hsplit]
  simp only [List.map_append, List.map_cons, List.sum_append, List.sum_cons]
  abel

theorem sum_map_set_lt {f : τ → ℕ} (h : tasks[i]? = some t) (hlt : f t' < f t) :
    ((tasks.set i t').map f).sum < (tasks.map f).sum := by
  have := sum_map_set f t' h
  omega

theorem map_set_of_eq (f : τ → β) (h : tasks[i]? = some t) (hf : f t' = f t) :
    (tasks.set i t').map f = tasks.map f := by
  obtain ⟨hsplit, hset⟩ := split_at t' h
  rw [hset]
  conv_rhs => rw [hsplit]
  simp [hf]

theorem forall_mem_set {p : τ → Prop} (h : ∀ u ∈ tasks, p u) (ht' : p t') :
    ∀ u ∈ tasks.set i t', p u := by
  intro u hu
  rcases List.mem_or_eq_of_mem_set hu with hu | rfl
  · exact h u hu
  · exact ht'

theorem sum_map_pos {f : τ → ℕ} (ht : t ∈ tasks) (hf : 0 < f t) : 0 < (tasks.map f).sum := by
  obtain ⟨before, after, rfl⟩ := List.append_of_mem ht
  simp only [List.map_append, List.map_cons, List.sum_append, List.sum_cons]
  omega

end GcpMonitor.TaskPool
