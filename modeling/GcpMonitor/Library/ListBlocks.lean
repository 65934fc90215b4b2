import Mathlib.Data.List.Forall2

namespace GcpMonitor.ListBlocks

variable {α β γ δ : Type} {f : α → List γ} {g : β → List γ}

theorem length_flatMap_eq {xs : List α} {ys : List β}
    (hlength : List.Forall₂ (fun x y => (f x).length = (g y).length) xs ys) :
    (xs.flatMap f).length = (ys.flatMap g).length := by
  induction hlength with
  | nil => rfl
  | cons hhead _ ih =>
    rw [List.flatMap_cons, List.flatMap_cons, List.length_append, List.length_append, hhead, ih]

theorem flatMap_eq_flatMap_iff {xs : List α} {ys : List β}
    (hlength : List.Forall₂ (fun x y => (f x).length = (g y).length) xs ys) :
    xs.flatMap f = ys.flatMap g ↔ List.Forall₂ (fun x y => f x = g y) xs ys := by
  induction hlength with
  | nil => exact iff_of_true rfl .nil
  | @cons x y xs ys hhead _ ih =>
    rw [List.flatMap_cons, List.flatMap_cons, List.forall₂_cons, ← ih]
    constructor
    · intro h
      exact List.append_inj h hhead
    · rintro ⟨hblock, hrest⟩
      rw [hblock, hrest]

theorem forall₂_flatMap {r : γ → δ → Prop} {g : α → List δ} {xs : List α}
    (h : ∀ x ∈ xs, List.Forall₂ r (f x) (g x)) :
    List.Forall₂ r (xs.flatMap f) (xs.flatMap g) := by
  induction xs with
  | nil => exact .nil
  | cons x xs ih =>
    obtain ⟨hx, hxs⟩ := List.forall_mem_cons.mp h
    exact List.rel_append hx (ih hxs)

theorem forall₂_of_map_fst_eq {κ ν : Type} {R : κ × ν → κ × ν → Prop} {xs ys : List (κ × ν)}
    (hkeys : xs.map Prod.fst = ys.map Prod.fst)
    (h : ∀ x ∈ xs, ∀ y ∈ ys, x.1 = y.1 → R x y) : List.Forall₂ R xs ys := by
  induction xs generalizing ys with
  | nil =>
    rw [List.map_eq_nil_iff.mp hkeys.symm]
    exact .nil
  | cons x xs ih =>
    cases ys with
    | nil => simp at hkeys
    | cons y ys =>
      simp only [List.map_cons, List.cons.injEq] at hkeys
      refine .cons (h x List.mem_cons_self y List.mem_cons_self hkeys.1) (ih hkeys.2 ?_)
      intro x hx y hy
      exact h x (List.mem_cons_of_mem _ hx) y (List.mem_cons_of_mem _ hy)

theorem forall₂_mem_of_nodup {κ ν : Type} {R : κ × ν → κ × ν → Prop} {xs ys : List (κ × ν)}
    (hkeys : xs.map Prod.fst = ys.map Prod.fst) (hnodup : (xs.map Prod.fst).Nodup)
    (h : List.Forall₂ R xs ys) {x y : κ × ν} (hx : x ∈ xs) (hy : y ∈ ys) (hxy : x.1 = y.1) :
    R x y := by
  induction h with
  | nil => contradiction
  | @cons x' y' xs ys hhead _ ih =>
    simp only [List.map_cons, List.cons.injEq] at hkeys
    rw [List.map_cons, List.nodup_cons] at hnodup
    rcases List.mem_cons.mp hx with rfl | hx
    · rcases List.mem_cons.mp hy with rfl | hy
      · exact hhead
      · have hmem : x.1 ∈ xs.map Prod.fst := by
          rw [hkeys.2, hxy]
          exact List.mem_map_of_mem hy
        exact absurd hmem hnodup.1
    · rcases List.mem_cons.mp hy with rfl | hy
      · have hmem : x'.1 ∈ xs.map Prod.fst := by
          rw [hkeys.1, ← hxy]
          exact List.mem_map_of_mem hx
        exact absurd hmem hnodup.1
      · exact ih hkeys.2 hnodup.2 hx hy

theorem snoc_eq_split {xs before after : List α} {x last : α}
    (h : xs ++ [last] = before ++ x :: after) :
    (before = xs ∧ x = last) ∨ ∃ after', xs = before ++ x :: after' := by
  obtain rfl | ⟨after', last', rfl⟩ := List.eq_nil_or_concat after
  · obtain ⟨rfl, hlast⟩ := List.append_inj' h rfl
    cases hlast
    exact .inl ⟨rfl, rfl⟩
  · rw [List.concat_eq_append, ← List.cons_append, ← List.append_assoc] at h
    exact .inr ⟨after', (List.append_inj' h rfl).1⟩

theorem split_cases {before before' after after' : List α} {x y : α}
    (h : before ++ x :: after = before' ++ y :: after') : x ∈ before' ∨ y ∈ before ∨ x = y := by
  rcases List.append_eq_append_iff.mp h with ⟨between, rfl, hrest⟩ | ⟨between, rfl, hrest⟩
  · cases between with
    | nil => exact .inr (.inr (List.cons.inj hrest).1)
    | cons z between =>
      rw [(List.cons.inj hrest).1]
      exact .inl (List.mem_append_right _ List.mem_cons_self)
  · cases between with
    | nil => exact .inr (.inr (List.cons.inj hrest).1.symm)
    | cons z between =>
      rw [(List.cons.inj hrest).1]
      exact .inr (.inl (List.mem_append_right _ List.mem_cons_self))

end GcpMonitor.ListBlocks
