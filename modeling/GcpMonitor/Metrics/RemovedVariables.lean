import GcpMonitor.Metrics.Service

namespace GcpMonitor.Metrics

open Python

/-- No line of the text holds two opening brackets and, after them, two closing ones. -/
def BracketsFree (s : Text) : Prop :=
  ∀ u m w, s = u ++ '{' :: '{' :: (m ++ '}' :: '}' :: w) → '\n' ∈ m

/-- Nothing but white space or the end of the text stands after `var:`. -/
def VarFree (s : Text) : Prop :=
  ∀ u c w, s = u ++ ("var:".toList ++ c :: w) → Text.isSpace c = true

theorem eq_self_iff_of_step {f : Text → Text} (hits : Text → Prop) (hnil : f [] = [])
    (hhit : ∀ c s, hits (c :: s) → f (c :: s) ≠ c :: s)
    (hstep : ∀ c s, ¬ hits (c :: s) → f (c :: s) = c :: f s) (s : Text) :
    f s = s ↔ ∀ u w, s = u ++ w → w ≠ [] → ¬ hits w := by
  induction s with
  | nil =>
    refine ⟨fun _ u w h hw => absurd (List.append_eq_nil_iff.mp h.symm).2 hw, fun _ => hnil⟩
  | cons c s ih =>
    by_cases hc : hits (c :: s)
    · refine ⟨fun h => absurd h (hhit c s hc), fun h => ?_⟩
      exact absurd hc (h [] (c :: s) rfl (List.cons_ne_nil _ _))
    · rw [hstep c s hc, List.cons.injEq, ih]
      constructor
      · rintro ⟨-, h⟩ u w hu hw
        cases u with
        | nil => exact (List.nil_append w ▸ hu) ▸ hc
        | cons d u => exact h u w (List.cons.inj hu).2 hw
      · intro h
        exact ⟨rfl, fun u w hu => h (c :: u) w (by rw [hu]; rfl)⟩

theorem isSome_closingBrackets (s : Text) :
    (closingBrackets s).isSome ↔ ∃ m w, s = m ++ '}' :: '}' :: w ∧ '\n' ∉ m := by
  fun_induction closingBrackets s with
  | case1 s =>
    simp only [Option.isSome_none, Bool.false_eq_true, false_iff]
    rintro ⟨m, w, h, hm⟩
    cases m with
    | nil => simp at h
    | cons c m => exact hm ((List.cons.inj h).1 ▸ List.mem_cons_self)
  | case2 s => exact iff_of_true rfl ⟨[], s, rfl, List.not_mem_nil⟩
  | case3 c s hnewline hclosing ih =>
    rw [Option.isSome_map, ih]
    constructor
    · rintro ⟨m, w, rfl, hm⟩
      refine ⟨c :: m, w, rfl, ?_⟩
      rw [List.mem_cons, not_or]
      exact ⟨fun h => hnewline h.symm, hm⟩
    · rintro ⟨m, w, h, hm⟩
      cases m with
      | nil =>
        obtain ⟨rfl, rfl⟩ := List.cons.inj h
        exact absurd rfl (hclosing w rfl)
      | cons d m => exact ⟨m, w, (List.cons.inj h).2, List.not_mem_of_not_mem_cons hm⟩
  | case4 => simp

theorem removeBrackets_sublist (skip : ℕ) (s : Text) : (removeBrackets skip s).Sublist s := by
  fun_induction removeBrackets skip s with
  | case1 => exact List.Sublist.slnil
  | case2 skip c s ih => exact ih.cons c
  | case3 c s _ n _ ih => exact ih.cons c
  | case4 c s _ _ ih => exact ih.cons_cons c
  | case5 c s _ ih => exact ih.cons_cons c

theorem removeVars_sublist (skip : ℕ) (s : Text) : (removeVars skip s).Sublist s := by
  fun_induction removeVars skip s with
  | case1 => exact List.Sublist.slnil
  | case2 skip c s ih => exact ih.cons c
  | case3 c s name _ ih => exact ih.cons c
  | case4 c s name _ ih => exact ih.cons_cons c

theorem ne_cons_of_sublist {s t : Text} {c : Char} (h : t.Sublist s) : t ≠ c :: s := by
  rintro rfl
  exact absurd h.length_le (by simp)

theorem removeBrackets_eq_self_iff (s : Text) : removeBrackets 0 s = s ↔ BracketsFree s := by
  have hstarts : ∀ s : Text, "\x7b\x7b".toList.isPrefixOf s ↔ ∃ t, s = '{' :: '{' :: t := by
    intro s
    rw [List.isPrefixOf_iff_prefix]
    exact ⟨fun ⟨t, ht⟩ => ⟨t, ht.symm⟩, fun ⟨t, ht⟩ => ⟨t, ht.symm⟩⟩
  rw [eq_self_iff_of_step
    (fun s => ∃ m w, s = '{' :: '{' :: (m ++ '}' :: '}' :: w) ∧ '\n' ∉ m) rfl]
  · constructor
    · intro h u m w hs
      by_contra hm
      exact h u _ hs (List.cons_ne_nil _ _) ⟨m, w, rfl, hm⟩
    · rintro h u w rfl - ⟨m, w, rfl, hm⟩
      exact hm (h u m w rfl)
  · rintro c s ⟨m, w, hs, hm⟩
    obtain ⟨rfl, rfl⟩ := List.cons.inj hs
    have hclosing := (isSome_closingBrackets _).mpr ⟨m, w, rfl, hm⟩
    obtain ⟨n, hn⟩ := Option.isSome_iff_exists.mp hclosing
    rw [removeBrackets, if_pos ((hstarts _).mpr ⟨_, rfl⟩)]
    simp only [List.drop_succ_cons, List.drop_zero, hn]
    exact ne_cons_of_sublist (removeBrackets_sublist _ _)
  · intro c s hnot
    rw [removeBrackets]
    split_ifs with hopen
    · obtain ⟨t, ht⟩ := (hstarts _).mp hopen
      obtain ⟨rfl, rfl⟩ := List.cons.inj ht
      have hclosing : closingBrackets (List.drop 1 ('{' :: t)) = none := by
        rw [← Option.not_isSome_iff_eq_none, isSome_closingBrackets]
        rintro ⟨m, w, rfl, hm⟩
        exact hnot ⟨m, w, rfl, hm⟩
      rw [hclosing]
    · rfl

theorem removeVars_eq_self_iff (s : Text) : removeVars 0 s = s ↔ VarFree s := by
  rw [eq_self_iff_of_step
    (fun s => ∃ c w, s = "var:".toList ++ c :: w ∧ Text.isSpace c = false) rfl]
  · constructor
    · intro h u c w hs
      rw [← Bool.not_eq_false]
      intro hc
      exact h u _ hs (by simp) ⟨c, w, rfl, hc⟩
    · rintro h u w rfl - ⟨c, w, rfl, hc⟩
      rw [h u c w rfl] at hc
      contradiction
  · rintro c s ⟨d, w, hs, hd⟩
    have hname : (s.drop 3).takeWhile (fun c => !Text.isSpace c) ≠ [] := by
      rw [(List.cons.inj hs).2]
      simp [hd]
    rw [removeVars, if_pos ⟨by rw [hs]; exact List.isPrefixOf_iff_prefix.mpr ⟨_, rfl⟩, hname⟩]
    exact ne_cons_of_sublist (removeVars_sublist _ _)
  · intro c s hnot
    rw [removeVars, if_neg]
    rintro ⟨hvar, hname⟩
    obtain ⟨t, ht⟩ := List.isPrefixOf_iff_prefix.mp hvar
    obtain ⟨rfl, rfl⟩ := List.cons.inj ht
    cases t with
    | nil => exact hname rfl
    | cons d w =>
      refine hnot ⟨d, w, rfl, ?_⟩
      rw [← Bool.not_eq_true]
      intro hd
      exact hname (by simp [hd])

theorem remove_eq_self_iff (s : Text) :
    removeVars 0 (removeBrackets 0 s) = s ↔ BracketsFree s ∧ VarFree s := by
  rw [← removeBrackets_eq_self_iff, ← removeVars_eq_self_iff]
  constructor
  · intro h
    have hbrackets : removeBrackets 0 s = s := by
      apply (removeBrackets_sublist 0 s).eq_of_length_le
      rw [← congrArg List.length h]
      exact (removeVars_sublist 0 _).length_le
    exact ⟨hbrackets, by rwa [hbrackets] at h⟩
  · rintro ⟨hbrackets, hvars⟩
    rw [hbrackets, hvars]

end GcpMonitor.Metrics
