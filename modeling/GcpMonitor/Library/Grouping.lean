import GcpMonitor.Library.OrderedDict
import Mathlib.Data.List.Count
import Mathlib.Data.List.Flatten
import Mathlib.Data.List.Nodup

namespace GcpMonitor

namespace OrderedDict

variable {κ α β : Type}

def pairs (d : OrderedDict κ (List α)) : List (κ × α) :=
  d.entries.flatMap (fun entry => entry.2.map (fun x => (entry.1, x)))

theorem flatten_values (d : OrderedDict κ (List α)) : d.values.flatten = d.pairs.map Prod.snd := by
  rw [values, pairs, List.map_flatMap, ← List.flatMap_def]
  simp [Function.comp_def]

theorem flatMap_filter_entries (d : OrderedDict κ (List α)) (p : κ → Bool) (f : κ → α → β) :
    (d.entries.filter (fun entry => p entry.1)).flatMap (fun entry => entry.2.map (f entry.1)) =
      (d.pairs.filter (fun pair => p pair.1)).map (fun pair => f pair.1 pair.2) := by
  rw [pairs]
  induction d.entries with
  | nil => rfl
  | cons entry rest ih =>
    have hentry : (entry.2.map (fun x => (entry.1, x))).filter (fun pair => p pair.1) =
        if p entry.1 then entry.2.map (fun x => (entry.1, x)) else [] := by
      cases h : p entry.1 <;> simp [List.filter_map, Function.comp_def, h]
    rw [List.flatMap_cons, List.filter_append, List.map_append, hentry, ← ih, List.filter_cons]
    cases p entry.1 <;> simp [Function.comp_def]

variable [DecidableEq κ]

def append (d : OrderedDict κ (List α)) (k : κ) (x : α) : OrderedDict κ (List α) :=
  d.set k ((d.get k).getD [] ++ [x])

theorem pairs_append_perm (d : OrderedDict κ (List α)) (k : κ) (x : α) :
    (d.append k x).pairs.Perm (d.pairs ++ [(k, x)]) := by
  simp only [append, set, get, pairs]
  induction d.entries with
  | nil => simp [setEntries]
  | cons entry rest ih =>
    obtain ⟨k', xs⟩ := entry
    by_cases h : k' = k
    · subst h
      simp only [setEntries, if_pos, List.lookup_cons, BEq.rfl, Option.getD_some, List.flatMap_cons,
        List.map_append, List.map_singleton, List.append_assoc]
      exact List.Perm.append_left _ List.perm_append_comm
    · simp only [setEntries, if_neg h, List.lookup_cons, beq_false_of_ne (Ne.symm h),
        List.flatMap_cons, List.append_assoc]
      exact List.Perm.append_left _ ih

theorem pairs_foldl_append_perm (key : β → κ) (value : β → α) (xs : List β)
    (start : OrderedDict κ (List α)) :
    (xs.foldl (fun d x => d.append (key x) (value x)) start).pairs.Perm
      (start.pairs ++ xs.map (fun x => (key x, value x))) := by
  induction xs generalizing start with
  | nil => simp
  | cons x xs ih =>
    rw [List.foldl_cons, List.map_cons]
    refine (ih _).trans ?_
    rw [← List.singleton_append, ← List.append_assoc]
    exact (pairs_append_perm start (key x) (value x)).append_right _

theorem pairs_group_perm (key : β → κ) (value : β → α) (xs : List β) :
    (xs.foldl (fun d x => d.append (key x) (value x)) empty).pairs.Perm
      (xs.map (fun x => (key x, value x))) :=
  pairs_foldl_append_perm key value xs empty

theorem mem_keys_foldl_append (key : β → κ) (value : β → α) (xs : List β)
    (start : OrderedDict κ (List α)) {k : κ} :
    k ∈ (xs.foldl (fun d x => d.append (key x) (value x)) start).keys ↔
      k ∈ start.keys ∨ ∃ x ∈ xs, key x = k := by
  induction xs generalizing start with
  | nil => simp
  | cons x xs ih =>
    rw [List.foldl_cons, ih, append, mem_keys_set, List.exists_mem_cons_iff, or_assoc,
      eq_comm (a := k)]

theorem mem_keys_group (key : β → κ) (value : β → α) (xs : List β) {k : κ} :
    k ∈ (xs.foldl (fun d x => d.append (key x) (value x)) empty).keys ↔ ∃ x ∈ xs, key x = k := by
  simp [mem_keys_foldl_append]

end OrderedDict

theorem exists_unique_source {α β : Type} [BEq β] [LawfulBEq β] {l : List α} {f : α → List β}
    {b : β} (hnodup : (l.flatMap f).Nodup) (hb : b ∈ l.flatMap f) :
    ∃ before a after, l = before ++ a :: after ∧ (f a).count b = 1 ∧
      ∀ other ∈ before ++ after, b ∉ f other := by
  obtain ⟨a, ha, hfa⟩ := List.mem_flatMap.mp hb
  obtain ⟨before, after, rfl⟩ := List.append_of_mem ha
  obtain ⟨heach, hdisjoint⟩ := List.nodup_flatMap.mp hnodup
  refine ⟨before, a, after, rfl, List.count_eq_one_of_mem (heach a ha) hfa, ?_⟩
  obtain ⟨-, hafter, hbefore⟩ := List.pairwise_append.mp hdisjoint
  intro other hother hmem
  rcases List.mem_append.mp hother with hother | hother
  · exact hbefore other hother a List.mem_cons_self hmem hfa
  · exact (List.pairwise_cons.mp hafter).1 other hother hfa hmem

end GcpMonitor
