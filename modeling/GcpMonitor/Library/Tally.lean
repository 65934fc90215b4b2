import GcpMonitor.Library.OrderedDict
import Mathlib.Algebra.BigOperators.Group.List.Basic

namespace GcpMonitor.OrderedDict

variable {κ M : Type} [DecidableEq κ]

section AddMonoid

variable [AddMonoid M]

def addTo (d : OrderedDict κ M) (k : κ) (n : M) : OrderedDict κ M :=
  d.set k ((d.get k).getD 0 + n)

def tally (d : OrderedDict κ M) (amounts : List (κ × M)) : OrderedDict κ M :=
  amounts.foldl (fun d amount => d.addTo amount.1 amount.2) d

def totalFor (k : κ) (amounts : List (κ × M)) : M :=
  ((amounts.filter (fun amount => amount.1 = k)).map Prod.snd).sum

@[simp] theorem totalFor_nil (k : κ) : totalFor k ([] : List (κ × M)) = 0 := rfl

theorem totalFor_cons (k : κ) (amount : κ × M) (amounts : List (κ × M)) :
    totalFor k (amount :: amounts) =
      (if amount.1 = k then amount.2 else 0) + totalFor k amounts := by
  by_cases h : amount.1 = k
  · rw [totalFor, List.filter_cons_of_pos (by simpa using h), if_pos h]
    simp [totalFor]
  · rw [totalFor, List.filter_cons_of_neg (by simpa using h), if_neg h, zero_add, totalFor]

theorem getD_addTo (d : OrderedDict κ M) (k k' : κ) (n : M) :
    ((d.addTo k n).get k').getD 0 = (d.get k').getD 0 + if k = k' then n else 0 := by
  by_cases h : k = k'
  · subst h
    rw [addTo, get_set_self, Option.getD_some, if_pos rfl]
  · rw [addTo, get_set_of_ne _ _ (Ne.symm h), if_neg h, add_zero]

theorem getD_tally (d : OrderedDict κ M) (amounts : List (κ × M)) (k : κ) :
    ((d.tally amounts).get k).getD 0 = (d.get k).getD 0 + totalFor k amounts := by
  induction amounts generalizing d with
  | nil => simp [tally]
  | cons amount amounts ih =>
    have hrest := ih (d.addTo amount.1 amount.2)
    rw [getD_addTo, add_assoc, ← totalFor_cons] at hrest
    exact hrest

theorem mem_keys_tally {d : OrderedDict κ M} {amounts : List (κ × M)} {k : κ} :
    k ∈ (d.tally amounts).keys ↔ k ∈ d.keys ∨ ∃ amount ∈ amounts, amount.1 = k := by
  induction amounts generalizing d with
  | nil => simp [tally]
  | cons amount amounts ih =>
    have hrest := ih (d := d.addTo amount.1 amount.2)
    rw [addTo, mem_keys_set, or_assoc, eq_comm (a := k)] at hrest
    rw [List.exists_mem_cons_iff]
    exact hrest

theorem get_tally_empty (amounts : List (κ × M)) (k : κ) :
    ((empty : OrderedDict κ M).tally amounts).get k =
      if ∃ amount ∈ amounts, amount.1 = k then some (totalFor k amounts) else none := by
  have hmem : (((empty : OrderedDict κ M).tally amounts).get k).isSome ↔
      ∃ amount ∈ amounts, amount.1 = k := by
    rw [get_isSome_iff, mem_keys_tally]
    simp
  have htotal := getD_tally (empty : OrderedDict κ M) amounts k
  rw [get_empty, Option.getD_none, zero_add] at htotal
  by_cases h : ∃ amount ∈ amounts, amount.1 = k
  · obtain ⟨total, hget⟩ := Option.isSome_iff_exists.mp (hmem.mpr h)
    rw [hget, Option.getD_some] at htotal
    rw [if_pos h, hget, htotal]
  · rw [if_neg h, ← Option.not_isSome_iff_eq_none, hmem]
    exact h

theorem sum_entries_ite {ν : Type} (d : OrderedDict κ ν) (k : κ) (f : ν → M) :
    (d.entries.map (fun entry => if entry.1 = k then f entry.2 else 0)).sum =
      ((d.get k).map f).getD 0 := by
  obtain ⟨entries, hnodup⟩ := d
  simp only [get]
  induction entries with
  | nil => rfl
  | cons entry rest ih =>
    rw [List.map_cons, List.nodup_cons] at hnodup
    rw [List.map_cons, List.sum_cons, ih hnodup.2, List.lookup_cons]
    by_cases h : entry.1 = k
    · subst h
      have hnone : rest.lookup entry.1 = none := by
        apply List.lookup_eq_none_iff.mpr
        intro other hother
        rw [bne_iff_ne]
        intro hkey
        exact hnodup.1 (hkey ▸ List.mem_map_of_mem hother)
      simp [hnone]
    · rw [if_neg h, zero_add, beq_false_of_ne (Ne.symm h)]

end AddMonoid

section AddCommMonoid

variable [AddCommMonoid M]

end AddCommMonoid

def counter (xs : List κ) : OrderedDict κ ℕ := empty.tally (xs.map (fun x => (x, 1)))

theorem totalFor_ones (xs : List κ) (k : κ) :
    totalFor k (xs.map (fun x => (x, 1))) = xs.count k := by
  induction xs with
  | nil => rfl
  | cons x xs ih =>
    rw [List.map_cons, totalFor_cons, ih, List.count_cons, add_comm]
    simp

theorem get_counter (xs : List κ) (k : κ) :
    (counter xs).get k = if k ∈ xs then some (xs.count k) else none := by
  rw [counter, get_tally_empty, totalFor_ones]
  simp

end GcpMonitor.OrderedDict
