import Mathlib.Data.List.Basic
import Mathlib.Order.Lattice

namespace GcpMonitor.FirstMaximum

variable {α β : Type} [LinearOrder β] {key : α → β} {xs : List α} {m x : α}

/-- The element a scan keeps that replaces what it has only by something greater. -/
def IsFirstMax (key : α → β) (xs : List α) (m : α) : Prop :=
  ∃ before after, xs = before ++ m :: after ∧ (∀ x ∈ before, key x < key m) ∧
    ∀ x ∈ after, key x ≤ key m

theorem isFirstMax_singleton (key : α → β) (x : α) : IsFirstMax key [x] x :=
  ⟨[], [], rfl, by simp, by simp⟩

theorem IsFirstMax.mem (h : IsFirstMax key xs m) : m ∈ xs := by
  obtain ⟨before, after, rfl, -, -⟩ := h
  exact List.mem_append_right _ List.mem_cons_self

theorem IsFirstMax.le (h : IsFirstMax key xs m) (hx : x ∈ xs) : key x ≤ key m := by
  obtain ⟨before, after, rfl, hbefore, hafter⟩ := h
  rcases List.mem_append.mp hx with hx | hx
  · exact (hbefore x hx).le
  · rcases List.mem_cons.mp hx with rfl | hx
    · exact le_refl _
    · exact hafter x hx

theorem IsFirstMax.snoc_of_le (h : IsFirstMax key xs m) (hx : key x ≤ key m) :
    IsFirstMax key (xs ++ [x]) m := by
  obtain ⟨before, after, rfl, hbefore, hafter⟩ := h
  refine ⟨before, after ++ [x], by simp, hbefore, ?_⟩
  intro y hy
  rcases List.mem_append.mp hy with hy | hy
  · exact hafter y hy
  · rw [List.mem_singleton.mp hy]
    exact hx

theorem IsFirstMax.snoc_of_lt (h : IsFirstMax key xs m) (hx : key m < key x) :
    IsFirstMax key (xs ++ [x]) x := by
  refine ⟨xs, [], rfl, ?_, by simp⟩
  intro y hy
  exact (h.le hy).trans_lt hx

theorem IsFirstMax.iff_beaten (h : IsFirstMax key xs m) (P : α → Prop) :
    P m ↔ ∀ before x after, xs = before ++ x :: after → ¬ P x →
      ∃ y ∈ xs, P y ∧ (key x < key y ∨ y ∈ before ∧ key x ≤ key y) := by
  constructor
  · intro hm before x after hsplit hx
    refine ⟨m, h.mem, hm, ?_⟩
    obtain ⟨before', after', hsplit', hbefore, hafter⟩ := h
    rw [hsplit'] at hsplit
    rcases List.append_eq_append_iff.mp hsplit with ⟨mid, rfl, hmid⟩ | ⟨mid, rfl, hmid⟩
    · cases mid with
      | nil =>
        simp only [List.nil_append, List.cons.injEq] at hmid
        exact absurd (hmid.1 ▸ hm) hx
      | cons head mid =>
        simp only [List.cons_append, List.cons.injEq] at hmid
        obtain ⟨rfl, rfl⟩ := hmid
        exact .inr ⟨by simp, hafter x (by simp)⟩
    · cases mid with
      | nil =>
        simp only [List.nil_append, List.cons.injEq] at hmid
        exact absurd (hmid.1 ▸ hm) hx
      | cons head mid =>
        simp only [List.cons_append, List.cons.injEq] at hmid
        obtain ⟨rfl, rfl⟩ := hmid
        exact .inl (hbefore x (by simp))
  · intro hbeaten
    by_contra hm
    obtain ⟨before, after, hsplit, hbefore, -⟩ := id h
    obtain ⟨y, hy, -, hlt | ⟨hmem, hle⟩⟩ := hbeaten before m after hsplit hm
    · exact absurd (h.le hy) (not_le.mpr hlt)
    · exact absurd (hbefore y hmem) (not_lt.mpr hle)

end GcpMonitor.FirstMaximum
