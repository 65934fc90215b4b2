import Mathlib.Data.List.Chain

namespace GcpMonitor.GreedyPacking

variable {α : Type}

structure Packing (α : Type) where
  closed : List (List α)
  current : List α

namespace Packing

def empty : Packing α := ⟨[], []⟩

def add (full : List α → α → Bool) (p : Packing α) (x : α) : Packing α :=
  if full p.current x then ⟨p.closed ++ [p.current], [x]⟩ else ⟨p.closed, p.current ++ [x]⟩

def groups (p : Packing α) : List (List α) :=
  if p.current.isEmpty then p.closed else p.closed ++ [p.current]

def addAll (full : List α → α → Bool) (p : Packing α) (xs : List α) : Packing α :=
  xs.foldl (add full) p

end Packing

def pack (full : List α → α → Bool) (xs : List α) : List (List α) :=
  (Packing.empty.addAll full xs).groups

def Filled (full : List α → α → Bool) (g : List α) : Prop :=
  ∀ before x after, g = before ++ x :: after → before ≠ [] → full before x = false

def Overflows (full : List α → α → Bool) (g h : List α) : Prop :=
  ∃ x rest, h = x :: rest ∧ full g x = true

theorem Filled.singleton (full : List α → α → Bool) (x : α) : Filled full [x] := by
  intro before y after he hb
  cases before with
  | nil => exact absurd rfl hb
  | cons z before => simp at he

theorem Filled.snoc {full : List α → α → Bool} {g : List α} {x : α} (h : Filled full g)
    (hx : full g x = false) : Filled full (g ++ [x]) := by
  intro before y after he hb
  rcases List.eq_nil_or_concat after with rfl | ⟨after, z, rfl⟩
  · obtain ⟨rfl, hxy⟩ := List.append_inj' he rfl
    cases hxy
    exact hx
  · rw [List.concat_eq_append, ← List.cons_append, ← List.append_assoc] at he
    obtain ⟨rfl, -⟩ := List.append_inj' he rfl
    exact h before y after rfl hb

/-- What the loop has built so far. The current group is empty only before the first element. -/
structure Packing.Valid (full : List α → α → Bool) (p : Packing α) : Prop where
  closed_ne_nil : ∀ g ∈ p.closed, g ≠ []
  closed_filled : ∀ g ∈ p.closed, Filled full g
  current_filled : p.current ≠ [] → Filled full p.current
  closed_nil : p.current = [] → p.closed = []
  chain : p.current ≠ [] → List.IsChain (Overflows full) (p.closed ++ [p.current])

theorem Packing.Valid.empty (full : List α → α → Bool) :
    Valid full (Packing.empty : Packing α) := by
  constructor <;> simp [Packing.empty]

theorem isChain_snoc {R : List α → List α → Prop} {gs : List (List α)} {g h : List α}
    (hc : List.IsChain R (gs ++ [g])) (hr : R g h) : List.IsChain R (gs ++ [g] ++ [h]) := by
  apply List.IsChain.append hc (List.isChain_singleton h)
  intro x hx y hy
  simp only [List.getLast?_append, List.getLast?_singleton, Option.some_or, Option.mem_some_iff,
    List.head?_cons] at hx hy
  rw [← hx, ← hy]
  exact hr

theorem isChain_extend {full : List α → α → Bool} {gs : List (List α)}
    {g h : List α} (hc : List.IsChain (Overflows full) (gs ++ [g])) (hg : g ≠ []) :
    List.IsChain (Overflows full) (gs ++ [g ++ h]) := by
  rcases List.eq_nil_or_concat gs with rfl | ⟨gs, last, rfl⟩
  · simp
  · rw [List.concat_eq_append] at hc ⊢
    have hlast : Overflows full last g := by
      rw [List.append_assoc] at hc
      have := (List.isChain_append.mp hc).2.1
      simpa using this
    apply isChain_snoc (List.IsChain.left_of_append hc)
    obtain ⟨x, rest, rfl, hx⟩ := hlast
    exact ⟨x, rest ++ h, rfl, hx⟩

theorem Packing.Valid.add {full : List α → α → Bool} {p : Packing α} {x : α}
    (h : p.Valid full) (hx : full [] x = false) : (p.add full x).Valid full := by
  unfold Packing.add
  cases hf : full p.current x with
  | true =>
    have hne : p.current ≠ [] := by
      intro he
      rw [he, hx] at hf
      cases hf
    simp only [↓reduceIte]
    refine ⟨?_, ?_, ?_, by simp, ?_⟩
    · intro g hg
      rcases List.mem_append.mp hg with hg | hg
      · exact h.closed_ne_nil g hg
      · rw [List.mem_singleton.mp hg]
        exact hne
    · intro g hg
      rcases List.mem_append.mp hg with hg | hg
      · exact h.closed_filled g hg
      · rw [List.mem_singleton.mp hg]
        exact h.current_filled hne
    · intro _
      exact Filled.singleton full x
    · intro _
      exact isChain_snoc (h.chain hne) ⟨x, [], rfl, hf⟩
  | false =>
    simp only [Bool.false_eq_true, ↓reduceIte]
    refine ⟨h.closed_ne_nil, h.closed_filled, ?_, by simp, ?_⟩
    · intro _
      by_cases hne : p.current = []
      · rw [hne]
        exact Filled.singleton full x
      · exact (h.current_filled hne).snoc hf
    · intro _
      by_cases hne : p.current = []
      · simp [h.closed_nil hne]
      · exact isChain_extend (h.chain hne) hne

theorem Packing.add_flatten (full : List α → α → Bool) (p : Packing α) (x : α) :
    (p.add full x).closed.flatten ++ (p.add full x).current =
      p.closed.flatten ++ p.current ++ [x] := by
  unfold Packing.add
  split_ifs <;> simp

theorem Packing.addAll_flatten (full : List α → α → Bool) (p : Packing α) (xs : List α) :
    (p.addAll full xs).closed.flatten ++ (p.addAll full xs).current =
      p.closed.flatten ++ p.current ++ xs := by
  induction xs generalizing p with
  | nil => simp [Packing.addAll]
  | cons x xs ih =>
    change ((p.add full x).addAll full xs).closed.flatten ++
      ((p.add full x).addAll full xs).current = _
    rw [ih, Packing.add_flatten]
    simp

theorem Packing.Valid.addAll {full : List α → α → Bool} {p : Packing α} {xs : List α}
    (h : p.Valid full) (hx : ∀ x ∈ xs, full [] x = false) : (p.addAll full xs).Valid full := by
  induction xs generalizing p with
  | nil => exact h
  | cons x xs ih =>
    apply ih (h.add (hx x List.mem_cons_self))
    intro y hy
    exact hx y (List.mem_cons_of_mem _ hy)

theorem Packing.groups_flatten (p : Packing α) :
    p.groups.flatten = p.closed.flatten ++ p.current := by
  unfold Packing.groups
  split_ifs with he
  · simp [List.isEmpty_iff.mp he]
  · simp

theorem pack_flatten (full : List α → α → Bool) (xs : List α) : (pack full xs).flatten = xs := by
  rw [pack, Packing.groups_flatten, Packing.addAll_flatten]
  simp [Packing.empty]

theorem pack_valid {full : List α → α → Bool} {xs : List α} (hx : ∀ x ∈ xs, full [] x = false) :
    (∀ g ∈ pack full xs, g ≠ [] ∧ Filled full g) ∧
      List.IsChain (Overflows full) (pack full xs) := by
  have h := (Packing.Valid.empty full).addAll hx
  unfold pack Packing.groups
  split_ifs with he
  · rw [h.closed_nil (List.isEmpty_iff.mp he)]
    simp
  · have hne : (Packing.empty.addAll full xs).current ≠ [] := by
      intro hnil
      exact he (List.isEmpty_iff.mpr hnil)
    refine ⟨?_, h.chain hne⟩
    intro g hg
    rcases List.mem_append.mp hg with hg | hg
    · exact ⟨h.closed_ne_nil g hg, h.closed_filled g hg⟩
    · rw [List.mem_singleton.mp hg]
      exact ⟨hne, h.current_filled hne⟩

end GcpMonitor.GreedyPacking
