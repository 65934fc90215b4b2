import Mathlib.Data.List.Induction
import Mathlib.Order.Basic

namespace GcpMonitor.TransitionSystem

variable {σ ε : Type}

/-- An event is one choice of the scheduler together with what the environment answers; in each
state it either cannot happen or leads to exactly one state. -/
structure System (σ ε : Type) where
  init : σ
  step : σ → ε → Option σ

namespace System

variable (M : System σ ε)

def runFrom (s : σ) (trace : List ε) : Option σ := trace.foldlM M.step s

def run (trace : List ε) : Option σ := M.runFrom M.init trace

def Reachable (s : σ) : Prop := ∃ trace, M.run trace = some s

theorem runFrom_append (s : σ) (first second : List ε) :
    M.runFrom s (first ++ second) = (M.runFrom s first).bind (fun t => M.runFrom t second) := by
  simp only [runFrom, List.foldlM_append]
  rfl

theorem run_snoc (trace : List ε) (e : ε) :
    M.run (trace ++ [e]) = (M.run trace).bind (fun s => M.step s e) := by
  rw [run, runFrom_append]
  congr 1
  funext s
  simp [runFrom]

theorem run_snoc_some {trace : List ε} {e : ε} {t : σ} (h : M.run (trace ++ [e]) = some t) :
    ∃ s, M.run trace = some s ∧ M.step s e = some t := by
  rw [run_snoc] at h
  exact Option.bind_eq_some_iff.mp h

def Along (P : σ → ε → Prop) (trace : List ε) : Prop :=
  ∀ before e rest s, trace = before ++ e :: rest → M.run before = some s → P s e

theorem along_congr {P Q : σ → ε → Prop} (h : ∀ s, M.Reachable s → ∀ e, P s e ↔ Q s e)
    (trace : List ε) : M.Along P trace ↔ M.Along Q trace := by
  constructor
  · intro hp before e rest s htrace hrun
    exact (h s ⟨before, hrun⟩ e).mp (hp before e rest s htrace hrun)
  · intro hq before e rest s htrace hrun
    exact (h s ⟨before, hrun⟩ e).mpr (hq before e rest s htrace hrun)

theorem along_nil {P : σ → ε → Prop} : M.Along P [] := by
  intro before e rest s htrace
  simp at htrace

theorem along_snoc {P : σ → ε → Prop} {trace : List ε} {e : ε} :
    M.Along P (trace ++ [e]) ↔ M.Along P trace ∧ ∀ s, M.run trace = some s → P s e := by
  constructor
  · intro h
    constructor
    · rintro before e' rest s rfl hrun
      exact h before e' (rest ++ [e]) s (by simp) hrun
    · intro s hrun
      exact h trace e [] s rfl hrun
  · rintro ⟨hbefore, hlast⟩ before e' rest s htrace hrun
    obtain rfl | ⟨rest', last, rfl⟩ := List.eq_nil_or_concat rest
    · obtain ⟨rfl, hlast'⟩ := List.append_inj' htrace rfl
      cases hlast'
      exact hlast s hrun
    · rw [List.concat_eq_append, ← List.cons_append, ← List.append_assoc] at htrace
      obtain ⟨rfl, -⟩ := List.append_inj' htrace rfl
      exact hbefore before e' rest' s rfl hrun

theorem along_singleton {P : σ → ε → Prop} {e : ε} : M.Along P [e] ↔ P M.init e := by
  constructor
  · intro h
    exact h [] e [] M.init rfl rfl
  · intro h before e' rest s htrace hrun
    obtain ⟨rfl, rfl, rfl⟩ | ⟨_, -, hnil⟩ := List.cons_eq_append_iff.mp htrace
    · cases hrun
      exact h
    · simp at hnil

theorem trace_invariant (I : List ε → σ → Prop) (hinit : I [] M.init)
    (hstep : ∀ trace s e t, M.run trace = some s → I trace s → M.step s e = some t →
      I (trace ++ [e]) t) :
    ∀ trace s, M.run trace = some s → I trace s := by
  intro trace
  induction trace using List.reverseRecOn with
  | nil =>
    intro s h
    cases h
    exact hinit
  | append_singleton trace e ih =>
    intro t h
    obtain ⟨s, hrun, hs⟩ := M.run_snoc_some h
    exact hstep trace s e t hrun (ih s hrun) hs

theorem invariant (I : σ → Prop) (hinit : I M.init)
    (hstep : ∀ s e t, I s → M.step s e = some t → I t) {s : σ} (h : M.Reachable s) : I s := by
  obtain ⟨trace, hrun⟩ := h
  apply M.trace_invariant (fun _ => I) hinit _ trace s hrun
  intro _ s e t _ hi hs
  exact hstep s e t hi hs

theorem Reachable.step {M : System σ ε} {s t : σ} {e : ε} (h : M.Reachable s)
    (hs : M.step s e = some t) : M.Reachable t := by
  obtain ⟨trace, hrun⟩ := h
  exact ⟨trace ++ [e], by rw [run_snoc, hrun]; exact hs⟩

theorem Reachable.runFrom {M : System σ ε} {s t : σ} {trace : List ε} (h : M.Reachable s)
    (hrun : M.runFrom s trace = some t) : M.Reachable t := by
  obtain ⟨before, hbefore⟩ := h
  refine ⟨before ++ trace, ?_⟩
  rw [run, runFrom_append, ← run, hbefore, Option.bind_some, hrun]

end System

end GcpMonitor.TransitionSystem
